/-
The numbers of the members of an enum.

Members are numbered from front to back with a counter: a number of its own restarts it, and at the top
of the range it stays.  What a member gets is therefore told by the last number before it, however the
counter got there:

* `toInt_nextMemberValue` — a step of the counter adds one, and never leaves the range;
* `getElem?_numberMembers` — a member without a number gets what the counter shows at its place
  (`dueNumber`);
* `LastNumbered.toInt_dueNumber` — the counter has grown by the distance from the last number given,
  up to the top; `toInt_dueNumber_of_unnumbered` — from the start, if none was given;
* `numbering_closed_form` — the numbers, names and lookups of a whole enum.
-/
import IdlLink.Schema.Basic

namespace IdlLink

/-! ### The counter -/

/-- A step of the counter adds one, up to the top of the range. -/
theorem toInt_nextMemberValue (v : Int64) :
    (nextMemberValue v).toInt = min Int64.maxValue.toInt (v.toInt + 1) := by
  rw [nextMemberValue]
  by_cases hv : v = Int64.maxValue
  · rw [if_pos hv, hv]
    omega
  · -- below the top the sum is in range, so it is the sum of integers
    have hne : v.toInt ≠ Int64.maxValue.toInt := fun h => hv (Int64.toInt_inj.1 h)
    have hle : v.toInt ≤ Int64.maxValue.toInt := v.toInt_le
    have hge : -2 ^ 63 ≤ v.toInt := v.le_toInt
    rw [Int64.toInt_maxValue] at hne hle ⊢
    rw [if_neg hv, Int64.toInt_add, Int64.toInt_one,
      Int.bmod_eq_of_le (by omega) (by omega)]
    omega

/-- What the counter shows at a place, if it starts from some number. -/
def dueNumber (start : Int64) (members : List (String × Option Int64)) (i : Nat) : Int64 :=
  (members.take i).foldl (fun next e => nextMemberValue (e.2.getD next)) start

theorem dueNumber_zero (start : Int64) (members : List (String × Option Int64)) :
    dueNumber start members 0 = start := rfl

theorem dueNumber_cons_succ (start : Int64) (e : String × Option Int64)
    (rest : List (String × Option Int64)) (i : Nat) :
    dueNumber start (e :: rest) (i + 1) =
      dueNumber (nextMemberValue (e.2.getD start)) rest i := rfl

/-- From one place to the next the counter goes on from the member that stands there. -/
theorem dueNumber_succ {start : Int64} {members : List (String × Option Int64)} {i : Nat}
    {e : String × Option Int64} (h : members[i]? = some e) :
    dueNumber start members (i + 1) = nextMemberValue (e.2.getD (dueNumber start members i)) := by
  rw [dueNumber, List.take_add_one, h, Option.toList_some, List.foldl_append]
  rfl

/-- A member keeps its name and its own number; without one it gets what the counter shows. -/
theorem getElem?_numberMembers (start : Int64) (members : List (String × Option Int64)) (i : Nat) :
    (numberMembers start members)[i]? =
      members[i]?.map fun e => ⟨e.1, e.2.getD (dueNumber start members i)⟩ := by
  induction members generalizing start i with
  | nil => rfl
  | cons e rest ih =>
    cases i with
    | zero => rfl
    | succ i =>
      rw [numberMembers, List.getElem?_cons_succ, ih, List.getElem?_cons_succ, dueNumber_cons_succ]

theorem map_name_numberMembers (start : Int64) (members : List (String × Option Int64)) :
    (numberMembers start members).map EnumMember.name = members.map Prod.fst := by
  induction members generalizing start with
  | nil => rfl
  | cons e rest ih => rw [numberMembers, List.map_cons, ih, List.map_cons]

/-! ### The last number given -/

variable {start : Int64} {members : List (String × Option Int64)} {i j : Nat} {v : Int64}

/-- The members before a place have no numbers of their own. -/
def Unnumbered (members : List (String × Option Int64)) (i : Nat) : Prop :=
  ∀ k < i, ∃ n, members[k]? = some (n, none)

/-- The last member before a place that has a number of its own, and the number. -/
structure LastNumbered (members : List (String × Option Int64)) (i j : Nat) (v : Int64) : Prop where
  lt : j < i
  numbered : ∃ n, members[j]? = some (n, some v)
  unnumbered : ∀ k, j < k → k < i → ∃ n, members[k]? = some (n, none)

/-- Some number is the last one before a place, unless there is none. -/
theorem unnumbered_or_lastNumbered (h : i ≤ members.length) :
    Unnumbered members i ∨ ∃ j v, LastNumbered members i j v := by
  induction i with
  | zero => exact .inl fun k hk => absurd hk (Nat.not_lt_zero k)
  | succ i ih =>
    obtain ⟨⟨n, explicit⟩, hi⟩ : ∃ e, members[i]? = some e :=
      ⟨members[i], List.getElem?_eq_getElem h⟩
    cases explicit with
    | some v =>
      right
      exact ⟨i, v, Nat.lt_succ_self i, ⟨n, hi⟩, fun k hik hk => by omega⟩
    | none =>
      rcases ih (Nat.le_of_succ_le h) with hnone | ⟨j, v, hlast⟩
      · left
        intro k hk
        rcases Nat.lt_succ_iff_lt_or_eq.1 hk with hk | rfl
        · exact hnone k hk
        · exact ⟨n, hi⟩
      · right
        refine ⟨j, v, Nat.lt_succ_of_lt hlast.lt, hlast.numbered, fun k hjk hk => ?_⟩
        rcases Nat.lt_succ_iff_lt_or_eq.1 hk with hk | rfl
        · exact hlast.unnumbered k hjk hk
        · exact ⟨n, hi⟩

/-! ### What the counter shows -/

/-- A member without a number moves the counter on by one. -/
theorem toInt_dueNumber_succ {n : String} (h : members[i]? = some (n, none)) :
    (dueNumber start members (i + 1)).toInt =
      min Int64.maxValue.toInt ((dueNumber start members i).toInt + 1) := by
  rw [dueNumber_succ h, Option.getD_none, toInt_nextMemberValue]

/-- From the start on the counter grows by one for each member, up to the top. -/
theorem toInt_dueNumber_of_unnumbered (h : Unnumbered members i) :
    (dueNumber start members i).toInt = min Int64.maxValue.toInt (start.toInt + i) := by
  induction i with
  | zero =>
    have hle : start.toInt ≤ Int64.maxValue.toInt := start.toInt_le
    rw [dueNumber_zero]
    omega
  | succ i ih =>
    obtain ⟨n, hn⟩ := h i (Nat.lt_succ_self i)
    rw [toInt_dueNumber_succ hn, ih fun k hk => h k (Nat.lt_succ_of_lt hk)]
    omega

/-- From the last number on the counter grows by one for each place, up to the top.  Where it started,
and whether it had been at the top before, no longer matters. -/
theorem LastNumbered.toInt_dueNumber (h : LastNumbered members i j v) :
    (dueNumber start members i).toInt =
      min Int64.maxValue.toInt (v.toInt + ((i : Int) - (j : Int))) := by
  induction i with
  | zero => exact absurd h.lt (Nat.not_lt_zero j)
  | succ i ih =>
    rcases Nat.lt_succ_iff_lt_or_eq.1 h.lt with hlt | rfl
    · obtain ⟨n, hn⟩ := h.unnumbered i hlt (Nat.lt_succ_self i)
      have hlast : LastNumbered members i j v :=
        ⟨hlt, h.numbered, fun k hjk hk => h.unnumbered k hjk (Nat.lt_succ_of_lt hk)⟩
      rw [toInt_dueNumber_succ hn, ih hlast]
      omega
    · obtain ⟨n, hn⟩ := h.numbered
      rw [dueNumber_succ hn, Option.getD_some, toInt_nextMemberValue]
      omega

/-! ### Members by their names -/

namespace Enumeration

variable {e : Enumeration} {name : String} {m : EnumMember}

/-- A name finds the member that has it with none before it. -/
theorem member?_eq_some_iff :
    e.member? name = some m ↔ ∃ before after, e.members = before ++ m :: after ∧ m.name = name ∧
      name ∉ before.map EnumMember.name := by
  rw [member?, List.find?_eq_some_iff_append]
  simp only [decide_eq_true_eq, Bool.not_eq_true', decide_eq_false_iff_not, List.mem_map,
    not_exists, not_and]
  constructor
  · rintro ⟨hm, before, after, he, hbefore⟩
    exact ⟨before, after, he, hm, hbefore⟩
  · rintro ⟨before, after, he, hm, hbefore⟩
    exact ⟨hm, before, after, he, hbefore⟩

theorem isSome_member?_iff : (e.member? name).isSome ↔ name ∈ e.members.map EnumMember.name := by
  simp only [member?, List.find?_isSome, decide_eq_true_eq, List.mem_map]

end Enumeration

/-- **The members of an enum have the numbers that the last given number tells.**  An enum has the
names of its members in their order.  A member keeps a number that it is given; otherwise it continues
from the last one given before it by the distance of the two places, or from the first place if there
is none, and stops at the top of the range, which no step of the counter leaves.  A name finds the
first member that has it, whenever there is one. -/
theorem numbering_closed_form (name : String) (members : List (String × Option Int64)) :
    (Enumeration.ofMembers name members).members.map EnumMember.name = members.map Prod.fst ∧
    (∀ (i : Nat) n v, members[i]? = some (n, some v) →
      (Enumeration.ofMembers name members).members[i]? = some ⟨n, v⟩) ∧
    (∀ (i : Nat) n, members[i]? = some (n, none) → ∃ due : Int64,
      (Enumeration.ofMembers name members).members[i]? = some ⟨n, due⟩ ∧
      (∀ j v, LastNumbered members i j v →
        due.toInt = min Int64.maxValue.toInt (v.toInt + ((i : Int) - (j : Int)))) ∧
      ((∀ j v, ¬ LastNumbered members i j v) →
        due.toInt = min Int64.maxValue.toInt i ∧
          ((i : Int) ≤ Int64.maxValue.toInt → due.toInt = i))) ∧
    (∀ v, (nextMemberValue v).toInt = min Int64.maxValue.toInt (v.toInt + 1)) ∧
    (∀ x m, (Enumeration.ofMembers name members).member? x = some m ↔
      ∃ before after, (Enumeration.ofMembers name members).members = before ++ m :: after ∧
        m.name = x ∧ x ∉ before.map EnumMember.name) ∧
    ∀ x, ((Enumeration.ofMembers name members).member? x).isSome ↔ x ∈ members.map Prod.fst := by
  have hnames : (Enumeration.ofMembers name members).members.map EnumMember.name =
      members.map Prod.fst := map_name_numberMembers 0 members
  have hget : ∀ i : Nat, (Enumeration.ofMembers name members).members[i]? =
      members[i]?.map fun e => ⟨e.1, e.2.getD (dueNumber 0 members i)⟩ :=
    getElem?_numberMembers 0 members
  refine ⟨hnames, fun i n v h => ?_, fun i n h => ?_, toInt_nextMemberValue,
    fun x m => Enumeration.member?_eq_some_iff, fun x => ?_⟩
  · rw [hget, h]
    rfl
  · refine ⟨dueNumber 0 members i, ?_, fun j v hlast => hlast.toInt_dueNumber, fun hnone => ?_⟩
    · rw [hget, h]
      rfl
    · obtain ⟨hlength, _⟩ := List.getElem?_eq_some_iff.1 h
      have hunnumbered : Unnumbered members i :=
        (unnumbered_or_lastNumbered (Nat.le_of_lt hlength)).resolve_right
          fun ⟨j, v, hlast⟩ => hnone j v hlast
      have hdue : (dueNumber 0 members i).toInt = min Int64.maxValue.toInt i := by
        rw [toInt_dueNumber_of_unnumbered hunnumbered, Int64.toInt_zero, Int.zero_add]
      exact ⟨hdue, fun hi => by omega⟩
  · rw [Enumeration.isSome_member?_iff, hnames]

/-- Members that reach the top of the range, start again below zero, and use a name for a second
time. -/
def steepMembers : List (String × Option Int64) :=
  [("LOW", none), ("HIGH", some (Int64.maxValue - 1)), ("LOW", none), ("TOP", none),
    ("BELOW", some (-3)), ("LAST", none)]

/-- At the top the count stays, later it has forgotten the top, and the first of two members of one
name is found. -/
theorem steepMembers_numbering :
    LastNumbered steepMembers 3 1 (Int64.maxValue - 1) ∧ LastNumbered steepMembers 5 4 (-3) ∧
      (Enumeration.ofMembers "Steep" steepMembers).members[3]? = some ⟨"TOP", Int64.maxValue⟩ ∧
      (Enumeration.ofMembers "Steep" steepMembers).members[5]? = some ⟨"LAST", -2⟩ ∧
      (Enumeration.ofMembers "Steep" steepMembers).member? "LOW" = some ⟨"LOW", 0⟩ := by
  have htop : LastNumbered steepMembers 3 1 (Int64.maxValue - 1) := by
    refine ⟨by decide, ⟨"HIGH", rfl⟩, fun k hk hk' => ?_⟩
    obtain rfl : k = 2 := by omega
    exact ⟨"LOW", rfl⟩
  have hlast : LastNumbered steepMembers 5 4 (-3) :=
    ⟨by decide, ⟨"BELOW", rfl⟩, fun k hk hk' => by omega⟩
  obtain ⟨_, _, hcontinued, _, hfirst, _⟩ := numbering_closed_form "Steep" steepMembers
  refine ⟨htop, hlast, ?_, ?_, (hfirst "LOW" ⟨"LOW", 0⟩).2 ⟨[], _, rfl, rfl, List.not_mem_nil⟩⟩
  · obtain ⟨due, hdue, hvalue, _⟩ := hcontinued 3 "TOP" rfl
    have htoInt : due.toInt = Int64.maxValue.toInt := (hvalue 1 _ htop).trans (by decide)
    rw [hdue, Int64.toInt_inj.1 htoInt]
  · obtain ⟨due, hdue, hvalue, _⟩ := hcontinued 5 "LAST" rfl
    have htoInt : due.toInt = (-2 : Int64).toInt := (hvalue 4 _ hlast).trans (by decide)
    rw [hdue, Int64.toInt_inj.1 htoInt]

end IdlLink
