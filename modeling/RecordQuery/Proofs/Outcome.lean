import Mathlib.Data.List.Forall2
import RecordQuery.Logged

/-!
# Outcomes of logged operations

What an operation reports never decides how it ends, so outcomes can be followed without the events:
the outcome of a sequence of operations depends on the outcomes of its parts only. An operation that
goes through a list ends well if it does so at every item, and otherwise ends as it does at the
first item at which it fails.
-/

namespace RecordQuery

namespace Logged

variable {α β : Type}

/-! ## Single operations -/

@[simp] theorem outcome_pure (a : α) : (Pure.pure a : Logged α).outcome = .ok a := rfl

@[simp] theorem outcome_report (e : Event) : (report e).outcome = .ok () := rfl

/-! ## Sequences -/

theorem bind_eq (m : Logged α) (next : α → Logged β) : m >>= next = m.bind next := rfl

theorem outcome_bind (m : Logged α) (next : α → Logged β) :
    (m >>= next).outcome = m.outcome.bind fun a ↦ (next a).outcome := by
  rw [bind_eq, bind]
  cases m.outcome with
  | ok a => rfl
  | error f => rfl

theorem outcome_bind_of_ok {m : Logged α} {a : α} (h : m.outcome = .ok a)
    (next : α → Logged β) : (m >>= next).outcome = (next a).outcome := by
  rw [outcome_bind, h]
  rfl

theorem outcome_bind_of_error {m : Logged α} {f : Fault} (h : m.outcome = .error f)
    (next : α → Logged β) : (m >>= next).outcome = .error f := by
  rw [outcome_bind, h]
  rfl

theorem outcome_bind_eq_ok {m : Logged α} {next : α → Logged β} {b : β} :
    (m >>= next).outcome = .ok b ↔ ∃ a, m.outcome = .ok a ∧ (next a).outcome = .ok b := by
  cases h : m.outcome with
  | ok a => simp [outcome_bind_of_ok h]
  | error f => simp [outcome_bind_of_error h]

theorem outcome_bind_eq_error {m : Logged α} {next : α → Logged β} {f : Fault} :
    (m >>= next).outcome = .error f ↔
      m.outcome = .error f ∨ ∃ a, m.outcome = .ok a ∧ (next a).outcome = .error f := by
  cases h : m.outcome with
  | ok a => simp [outcome_bind_of_ok h]
  | error g => simp [outcome_bind_of_error h]

/-! ## Agreement -/

/-- Where the first operation ends well so does the second, with a related result. -/
def Follows (R : α → β → Prop) (m : Logged α) (n : Logged β) : Prop :=
  ∀ a, m.outcome = .ok a → ∃ b, n.outcome = .ok b ∧ R a b

/-- Both operations end well, with related results, or neither does. -/
def Agree (R : α → β → Prop) (m : Logged α) (n : Logged β) : Prop :=
  Follows R m n ∧ Follows (fun b a ↦ R a b) n m

section Agreement

variable {α' β' : Type} {R S : α → β → Prop} {T : α' → β' → Prop} {m : Logged α} {n : Logged β}

theorem follows_of_ok {a : α} {b : β} (hm : m.outcome = .ok a) (hn : n.outcome = .ok b)
    (h : R a b) : Follows R m n := by
  intro a' ha'
  obtain rfl : a = a' := Except.ok.inj (hm.symm.trans ha')
  exact ⟨b, hn, h⟩

theorem Follows.imp (h : Follows R m n) (himp : ∀ a b, R a b → S a b) : Follows S m n := by
  intro a ha
  obtain ⟨b, hb, hab⟩ := h a ha
  exact ⟨b, hb, himp a b hab⟩

theorem Follows.bind {f : α → Logged α'} {g : β → Logged β'} (h : Follows R m n)
    (hnext : ∀ a b, R a b → Follows T (f a) (g b)) : Follows T (m >>= f) (n >>= g) := by
  intro a' ha'
  obtain ⟨a, ha, ha'⟩ := outcome_bind_eq_ok.mp ha'
  obtain ⟨b, hb, hab⟩ := h a ha
  obtain ⟨b', hb', hrel⟩ := hnext a b hab a' ha'
  exact ⟨b', outcome_bind_eq_ok.mpr ⟨b, hb, hb'⟩, hrel⟩

theorem agree_of_ok {a : α} {b : β} (hm : m.outcome = .ok a) (hn : n.outcome = .ok b)
    (h : R a b) : Agree R m n := ⟨follows_of_ok hm hn h, follows_of_ok hn hm h⟩

theorem Agree.imp (h : Agree R m n) (himp : ∀ a b, R a b → S a b) : Agree S m n :=
  ⟨h.1.imp himp, h.2.imp fun b a ↦ himp a b⟩

theorem Agree.bind {f : α → Logged α'} {g : β → Logged β'} (h : Agree R m n)
    (hnext : ∀ a b, R a b → Agree T (f a) (g b)) : Agree T (m >>= f) (n >>= g) :=
  ⟨h.1.bind fun a b hab ↦ (hnext a b hab).1, h.2.bind fun b a hab ↦ (hnext a b hab).2⟩

end Agreement

/-! ## Laws -/

/-- Sequences of logged operations can be regrouped, since lists of events can. -/
instance : LawfulMonad Logged := LawfulMonad.mk' Logged
  (by
    intro α m
    change m.bind _ = m
    obtain ⟨events, outcome⟩ := m
    cases outcome with
    | ok a => simp [bind, pure]
    | error f => rfl)
  (by
    intro α β a next
    change (pure a).bind next = next a
    simp [bind, pure])
  (by
    intro α β γ m next last
    change (m.bind next).bind last = m.bind fun a ↦ (next a).bind last
    obtain ⟨events, outcome⟩ := m
    cases outcome with
    | ok a =>
      simp only [bind]
      cases (next a).outcome with
      | ok b => simp
      | error f => rfl
    | error f => rfl)

/-! ## Lists -/

theorem outcome_mapM_eq_ok {f : α → Logged β} {as : List α} {bs : List β} :
    (as.mapM f).outcome = .ok bs ↔ List.Forall₂ (fun a b ↦ (f a).outcome = .ok b) as bs := by
  induction as generalizing bs with
  | nil =>
    rw [List.mapM_nil, outcome_pure, List.forall₂_nil_left_iff, Except.ok.injEq, eq_comm]
  | cons a as ih =>
    rw [List.mapM_cons, outcome_bind_eq_ok, List.forall₂_cons_left_iff]
    constructor
    · rintro ⟨b, hb, h⟩
      obtain ⟨rest, hrest, h⟩ := outcome_bind_eq_ok.mp h
      exact ⟨b, rest, hb, ih.mp hrest, (Except.ok.inj h).symm⟩
    · rintro ⟨b, rest, hb, hrest, rfl⟩
      exact ⟨b, hb, outcome_bind_eq_ok.mpr ⟨rest, ih.mpr hrest, rfl⟩⟩

/-- The first failure on the way through a list decides. -/
theorem outcome_mapM_eq_error {f : α → Logged β} {as : List α} {e : Fault} :
    (as.mapM f).outcome = .error e ↔
      ∃ before a after, as = before ++ a :: after ∧
        (∀ x ∈ before, ∃ b, (f x).outcome = .ok b) ∧ (f a).outcome = .error e := by
  induction as with
  | nil => simp
  | cons a as ih =>
    rw [List.mapM_cons, outcome_bind_eq_error]
    constructor
    · rintro (h | ⟨b, hb, h⟩)
      · exact ⟨[], a, as, rfl, by simp, h⟩
      · have hrest : (as.mapM f).outcome = .error e := by
          rcases outcome_bind_eq_error.mp h with h | ⟨bs, -, h⟩
          · exact h
          · cases h
        obtain ⟨before, x, after, rfl, hbefore, hx⟩ := ih.mp hrest
        refine ⟨a :: before, x, after, rfl, fun y hy ↦ ?_, hx⟩
        rcases List.mem_cons.mp hy with rfl | hy
        · exact ⟨b, hb⟩
        · exact hbefore y hy
    · rintro ⟨before, x, after, heq, hbefore, hx⟩
      cases before with
      | nil =>
        obtain ⟨rfl, -⟩ := List.cons.inj heq
        exact Or.inl hx
      | cons y before =>
        obtain ⟨rfl, rfl⟩ := List.cons.inj heq
        -- The item in front ended well, so the failure is one of the remaining list.
        obtain ⟨b, hb⟩ := hbefore a List.mem_cons_self
        refine Or.inr ⟨b, hb, outcome_bind_eq_error.mpr (Or.inl (ih.mpr ?_))⟩
        exact ⟨before, x, after, rfl, fun z hz ↦ hbefore z (List.mem_cons_of_mem _ hz), hx⟩

end Logged

end RecordQuery
