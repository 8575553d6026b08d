import Mathlib

/-!
# Chains of checks

A plan is checked by a chain of checks, each of which passes or gives an error.  A
chain passes exactly if all its checks pass, and otherwise gives the error of the
first that does not.  Both are said here once for each way of making a chain:
`bind` for two checks, `forM` for one check of each member of a list, `refuseIf` for
a check that is a test, and `refuseFirst` for a test of each member of a list.
-/

namespace RoadTraffic

variable {ε ε' α : Type}

theorem mapError_eq_ok_iff {f : ε → ε'} {check : Except ε Unit} :
    check.mapError f = .ok () ↔ check = .ok () := by
  cases check <;> simp [Except.mapError]

theorem mapError_eq_error_iff {f : ε → ε'} {check : Except ε Unit} {error : ε'} :
    check.mapError f = .error error ↔ ∃ reason, check = .error reason ∧ f reason = error := by
  cases check <;> simp [Except.mapError]

theorem bind_eq_ok_iff {check : Except ε Unit} {later : Unit → Except ε Unit} :
    (check >>= later) = .ok () ↔ check = .ok () ∧ later () = .ok () := by
  cases check with
  | error reason => exact ⟨nofun, fun h => nomatch h.1⟩
  | ok => exact ⟨fun h => ⟨rfl, h⟩, fun h => h.2⟩

/-- A check that can be run to its end. -/
theorem eq_ok_of_isOk {check : Except ε Unit} (h : check.isOk = true) : check = .ok () := by
  cases check with
  | error reason => exact nomatch h
  | ok => rfl

/-- The error of two checks is that of the first, or of the second if the first
passes. -/
theorem bind_eq_error_iff {check : Except ε Unit} {later : Unit → Except ε Unit} {error : ε} :
    (check >>= later) = .error error ↔
      check = .error error ∨ (check = .ok () ∧ later () = .error error) := by
  cases check with
  | error reason => exact ⟨Or.inl, fun h => h.elim id fun h => nomatch h.1⟩
  | ok => exact ⟨fun h => Or.inr ⟨rfl, h⟩, fun h => h.elim nofun And.right⟩

/-- A test that refuses. -/
def refuseIf (refused : Prop) [Decidable refused] (error : ε) : Except ε Unit :=
  if refused then throw error else pure ()

section Refuse

variable {refused : Prop} [Decidable refused] {error found : ε}

theorem refuseIf_eq_ok_iff : refuseIf refused error = .ok () ↔ ¬ refused := by
  unfold refuseIf
  split
  · next h => exact ⟨nofun, fun hn => absurd h hn⟩
  · next h => exact ⟨fun _ => h, fun _ => rfl⟩

theorem refuseIf_eq_error_iff :
    refuseIf refused error = .error found ↔ refused ∧ error = found := by
  unfold refuseIf
  split
  · next h => exact ⟨fun he => ⟨h, Except.error.inj he⟩, fun he => congrArg Except.error he.2⟩
  · next h => exact ⟨nofun, fun he => absurd he.1 h⟩

/-- A test within a chain, as a link of the chain. -/
theorem ite_throw_bind (later : Unit → Except ε Unit) :
    (if refused then throw error >>= later else later ()) = refuseIf refused error >>= later := by
  unfold refuseIf
  split <;> rfl

/-- A test for what is required, as a link of the chain. -/
theorem ite_bind_throw (later : Unit → Except ε Unit) :
    (if refused then later () else throw error >>= later) =
      refuseIf (¬ refused) error >>= later := by
  rw [← ite_throw_bind, ite_not]

end Refuse

theorem forM_cons (check : α → Except ε Unit) (a : α) (list : List α) :
    (a :: list).forM check = check a >>= fun _ => list.forM check := rfl

theorem forM_eq_ok_iff {check : α → Except ε Unit} {list : List α} :
    list.forM check = .ok () ↔ ∀ a ∈ list, check a = .ok () := by
  induction list with
  | nil => exact ⟨fun _ => List.forall_mem_nil _, fun _ => rfl⟩
  | cons a list ih =>
      rw [forM_cons, bind_eq_ok_iff, ih, List.forall_mem_cons]

/-- The error of a list is that of its first member which is refused. -/
theorem forM_eq_error_iff {check : α → Except ε Unit} {list : List α} {error : ε} :
    list.forM check = .error error ↔
      ∃ before a after, list = before ++ a :: after ∧ (∀ b ∈ before, check b = .ok ()) ∧
        check a = .error error := by
  induction list with
  | nil =>
      refine ⟨nofun, ?_⟩
      intro hsome
      obtain ⟨before, a, after, hnil, -⟩ := hsome
      cases before <;> exact nomatch hnil
  | cons a list ih =>
      rw [forM_cons, bind_eq_error_iff, ih]
      constructor
      · intro hor
        rcases hor with herror | ⟨hok, before, b, after, rfl, hbefore, herror⟩
        · exact ⟨[], a, list, rfl, nofun, herror⟩
        · exact ⟨a :: before, b, after, rfl, List.forall_mem_cons.mpr ⟨hok, hbefore⟩, herror⟩
      · intro hsome
        obtain ⟨before, b, after, hsplit, hbefore, herror⟩ := hsome
        cases before with
        | nil =>
            obtain ⟨rfl, rfl⟩ := List.cons.inj hsplit
            exact Or.inl herror
        | cons c before =>
            obtain ⟨rfl, rfl⟩ := List.cons.inj hsplit
            obtain ⟨hok, hbefore⟩ := List.forall_mem_cons.mp hbefore
            exact Or.inr ⟨hok, before, b, after, rfl, hbefore, herror⟩

/-- A test of each member of a list, which refuses the first that is bad. -/
def refuseFirst (bad : α → Bool) (error : α → ε) (list : List α) : Except ε Unit :=
  match list.find? bad with
  | some a => throw (error a)
  | none => pure ()

section RefuseFirst

variable {bad : α → Bool} {error : α → ε} {list : List α} {found : ε}

theorem refuseFirst_bind (later : Unit → Except ε Unit) :
    refuseFirst bad error list >>= later =
      match list.find? bad with
      | some a => throw (error a) >>= later
      | none => later () := by
  unfold refuseFirst
  cases list.find? bad <;> rfl

theorem refuseFirst_eq_ok_iff :
    refuseFirst bad error list = .ok () ↔ ∀ a ∈ list, bad a = false := by
  unfold refuseFirst
  have hnone := List.find?_eq_none (p := bad) (l := list)
  simp only [Bool.not_eq_true] at hnone
  rw [← hnone]
  cases list.find? bad with
  | none => exact ⟨fun _ => rfl, fun _ => rfl⟩
  | some a => exact ⟨nofun, nofun⟩

theorem refuseFirst_eq_error_iff : refuseFirst bad error list = .error found ↔
    ∃ before a after, list = before ++ a :: after ∧ (∀ b ∈ before, bad b = false) ∧
      bad a = true ∧ error a = found := by
  have hfind : ∀ a, list.find? bad = some a ↔ bad a = true ∧
      ∃ before after, list = before ++ a :: after ∧ ∀ b ∈ before, bad b = false := by
    intro a
    simp only [List.find?_eq_some_iff_append, Bool.not_eq_true']
  have herror : refuseFirst bad error list = .error found ↔
      ∃ a, list.find? bad = some a ∧ error a = found := by
    unfold refuseFirst
    cases list.find? bad with
    | none => exact ⟨nofun, fun h => nomatch h.choose_spec.1⟩
    | some a =>
        refine ⟨fun h => ⟨a, rfl, Except.error.inj h⟩, ?_⟩
        intro hsome
        obtain ⟨b, hb, rfl⟩ := hsome
        rw [Option.some.inj hb]
        rfl
  rw [herror]
  constructor
  · intro hsome
    obtain ⟨a, ha, hfound⟩ := hsome
    obtain ⟨hbad, before, after, hsplit, hbefore⟩ := (hfind a).mp ha
    exact ⟨before, a, after, hsplit, hbefore, hbad, hfound⟩
  · intro hsome
    obtain ⟨before, a, after, hsplit, hbefore, hbad, hfound⟩ := hsome
    exact ⟨a, (hfind a).mpr ⟨hbad, before, after, hsplit, hbefore⟩, hfound⟩

end RefuseFirst

end RoadTraffic
