/-
Reporting every reference that has no meaning.

`Schema.references` lists what a file refers to, in the order in which it is reported, and `check`
resolves each in its own file's scope. A failure is reported once. A cycle of typedefs can be entered
at any of its typedefs and by way of others; `canonical` drops the way in and starts the cycle at its
least name, so each cycle is reported once too.
-/
import IdlLink.Workspace.Basic

namespace IdlLink

/-- A place of a file that refers to a declaration. -/
inductive Reference where
  | type (t : TypeExpr)
  | value (c : ConstExpr)
  | base (name : String)

/-- The references of a field: its type, then its default. -/
def Field.references (f : Field) : List Reference :=
  .type f.type :: (f.default.map Reference.value).toList

/-- The references of a function: its result, parameters and exceptions. -/
def Function.references (f : Function) : List Reference :=
  (f.result.map Reference.type).toList ++ (f.params ++ f.exceptions).flatMap Field.references

/-- The references of a service: the service it extends, then its functions. -/
def Service.references (s : Service) : List Reference :=
  (s.base.map Reference.base).toList ++ s.functions.values.flatMap Function.references

/-- The references of a constant: its type, then its value. -/
def Constant.references (c : Constant) : List Reference := [.type c.type, .value c.value]

/-- The references of a file. -/
def Schema.references (s : Schema) : List Reference :=
  s.typedefs.values.map .type
    ++ (s.structs.values ++ s.unions.values ++ s.exceptions.values).flatMap
        (fun r => r.fields.flatMap Field.references)
    ++ s.constants.values.flatMap Constant.references
    ++ s.services.values.flatMap Service.references

/-- The error of a reference that has no meaning in a scope. -/
def Scope.failure? (s : Scope) : Reference → Option ResolveError
  | .type t => errorOf (s.resolveType t)
  | .value c => errorOf (s.resolveValue c)
  | .base n => errorOf (s.resolveService n)
where
  /-- The error of a result. -/
  errorOf {α : Type} : Except ResolveError α → Option ResolveError
    | .ok _ => none
    | .error e => some e

/-! ### One spelling for each cycle -/

/-- The least of some names, by code points. -/
def leastName : List String → Option String
  | [] => none
  | n :: ns => some (ns.foldl (fun least m => if m < least then m else least) n)

/-- A cycle that starts at its least name; of several least names the first counts. -/
def rotateToLeast (cycle : List String) : List String :=
  match leastName cycle with
  | none => []
  | some least => cycle.dropWhile (· ≠ least) ++ cycle.takeWhile (· ≠ least)

/-- A chain of typedefs reduced to its cycle: what leads up to the first mention of the last name is
dropped, and the cycle starts and ends with its least name. -/
def canonicalChain (chain : List String) : List String :=
  match chain.getLast? with
  | none => []
  | some last =>
    let cycle := rotateToLeast (chain.dropLast.dropWhile (· ≠ last))
    cycle ++ cycle.head?.toList

/-- An error with its cycle, if it has one, in the one spelling. -/
def ResolveError.canonical : ResolveError → ResolveError
  | .cyclic chain => .cyclic (canonicalChain chain)
  | e => e

/-! ### All failures -/

/-- The elements of a list without those that stood there before. -/
def distinct {α : Type} [DecidableEq α] (xs : List α) : List α :=
  xs.foldl (fun seen x => if x ∈ seen then seen else seen ++ [x]) []

theorem mem_distinct {α : Type} [DecidableEq α] {xs : List α} {x : α} :
    x ∈ distinct xs ↔ x ∈ xs := by
  have hfold : ∀ seen : List α,
      x ∈ xs.foldl (fun seen x => if x ∈ seen then seen else seen ++ [x]) seen ↔
        x ∈ seen ∨ x ∈ xs := by
    induction xs with
    | nil => simp
    | cons y rest ih =>
      intro seen
      rw [List.foldl_cons, ih]
      by_cases hy : y ∈ seen
      · -- what is dropped was there before
        rw [if_pos hy, List.mem_cons]
        constructor
        · exact Or.imp_right .inr
        · rintro (hx | rfl | hx)
          · exact .inl hx
          · exact .inl hy
          · exact .inr hx
      · rw [if_neg hy, List.mem_append, List.mem_singleton, List.mem_cons, or_assoc]
  rw [distinct, hfold]
  simp

theorem nodup_distinct {α : Type} [DecidableEq α] (xs : List α) : (distinct xs).Nodup := by
  have hfold : ∀ seen : List α, seen.Nodup →
      (xs.foldl (fun seen x => if x ∈ seen then seen else seen ++ [x]) seen).Nodup := by
    induction xs with
    | nil => exact fun _ hseen => hseen
    | cons y rest ih =>
      intro seen hseen
      rw [List.foldl_cons]
      by_cases hy : y ∈ seen
      · rw [if_pos hy]
        exact ih seen hseen
      · rw [if_neg hy]
        refine ih _ (List.nodup_append.2 ⟨hseen, by simp, fun a ha b hb he => ?_⟩)
        rw [he, List.mem_singleton.1 hb] at ha
        exact hy ha
  exact hfold [] List.nodup_nil

namespace Workspace

/-- Every failure of every file, in order, as often as it occurs. -/
def failures (w : Workspace) : List ResolveError :=
  w.schemas.entries.flatMap fun e =>
    e.2.references.filterMap (Scope.of w.symbols (some e.1)).failure?

/-- Every distinct failure, in the order of first occurrence. -/
def check (w : Workspace) : List ResolveError := distinct (w.failures.map ResolveError.canonical)

end Workspace

end IdlLink
