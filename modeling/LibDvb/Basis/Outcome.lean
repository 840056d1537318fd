import Mathlib.Data.List.Basic

namespace LibDvb

inductive Outcome (ε α : Type) where
  | ok (value : α)
  | err (error : ε)
  | panic
  deriving DecidableEq, Repr

namespace Outcome

variable {ε α β : Type}

instance : Monad (Outcome ε) where
  pure := .ok
  bind
    | .ok a, f => f a
    | .err e, _ => .err e
    | .panic, _ => .panic

def index (xs : List α) (i : Nat) : Outcome ε α :=
  match xs[i]? with
  | some a => .ok a
  | none => .panic

def slice (xs : List α) (first last : Nat) : Outcome ε (List α) :=
  if first ≤ last ∧ last ≤ xs.length then .ok ((xs.take last).drop first) else .panic

def sliceFrom (xs : List α) (first : Nat) : Outcome ε (List α) :=
  if first ≤ xs.length then .ok (xs.drop first) else .panic

def sub (a b : Nat) : Outcome ε Nat :=
  if b ≤ a then .ok (a - b) else .panic

def expect : Option α → Outcome ε α
  | some a => .ok a
  | none => .panic

def attempt : Outcome ε α → Outcome ε (Except ε α)
  | .ok a => .ok (.ok a)
  | .err e => .ok (.error e)
  | .panic => .panic

def ofExcept : Except ε α → Outcome ε α
  | .ok a => .ok a
  | .error e => .err e

def Sat (o : Outcome ε α) (Q : α → Prop) (E : ε → Prop) : Prop :=
  match o with
  | .ok a => Q a
  | .err e => E e
  | .panic => False

theorem drop_take_middle (xs ys zs : List α) :
    ((xs ++ (ys ++ zs)).take (xs.length + ys.length)).drop xs.length = ys := by
  rw [← List.append_assoc, ← List.length_append, List.take_left, List.drop_left]

@[simp] theorem pure_eq (a : α) : (pure a : Outcome ε α) = .ok a := rfl

@[simp] theorem ok_bind (a : α) (f : α → Outcome ε β) : (Outcome.ok a >>= f) = f a := rfl

@[simp] theorem err_bind (e : ε) (f : α → Outcome ε β) : (Outcome.err e >>= f) = .err e := rfl

@[simp] theorem panic_bind (f : α → Outcome ε β) : (Outcome.panic >>= f) = .panic := rfl

@[simp] theorem ofExcept_ok (a : α) : (ofExcept (.ok a) : Outcome ε α) = .ok a := rfl

@[simp] theorem ofExcept_error (e : ε) : (ofExcept (.error e) : Outcome ε α) = .err e := rfl

variable {Q Q' : α → Prop} {E E' : ε → Prop}

@[simp] theorem sat_ok (a : α) : (Outcome.ok a : Outcome ε α).Sat Q E ↔ Q a := Iff.rfl

@[simp] theorem sat_err (e : ε) : (Outcome.err e : Outcome ε α).Sat Q E ↔ E e := Iff.rfl

@[simp] theorem sat_panic : ¬ (Outcome.panic : Outcome ε α).Sat Q E := id

theorem sat_bind {m : Outcome ε α} {f : α → Outcome ε β} {Q : β → Prop} :
    (m >>= f).Sat Q E ↔ m.Sat (fun a => (f a).Sat Q E) E := by
  cases m <;> rfl

theorem sat_ite {c : Prop} [Decidable c] {m n : Outcome ε α} :
    (if c then m else n).Sat Q E ↔ (c → m.Sat Q E) ∧ (¬ c → n.Sat Q E) := by
  by_cases h : c <;> simp [h]

theorem Sat.mono {m : Outcome ε α} (h : m.Sat Q E) (hq : ∀ a, Q a → Q' a)
    (he : ∀ e, E e → E' e) : m.Sat Q' E' := by
  cases m with
  | ok a => exact hq a h
  | err e => exact he e h
  | panic => exact h

theorem Sat.ne_panic {m : Outcome ε α} (h : m.Sat Q E) : m ≠ .panic := by
  rintro rfl
  exact h

theorem sat_index {xs : List α} {i : Nat} :
    (index xs i : Outcome ε α).Sat Q E ↔ ∃ h : i < xs.length, Q xs[i] := by
  by_cases h : i < xs.length
  · simp [index, h]
  · simp [index, h]

theorem sat_sub {a b : Nat} {Q : Nat → Prop} :
    (sub a b : Outcome ε Nat).Sat Q E ↔ b ≤ a ∧ Q (a - b) := by
  by_cases h : b ≤ a <;> simp [sub, h]

theorem sat_slice {xs : List α} {i j : Nat} {Q : List α → Prop} :
    (slice xs i j : Outcome ε (List α)).Sat Q E ↔
      (i ≤ j ∧ j ≤ xs.length) ∧ Q ((xs.take j).drop i) := by
  by_cases h : i ≤ j ∧ j ≤ xs.length <;> simp [slice, h]

theorem sat_sliceFrom {xs : List α} {i : Nat} {Q : List α → Prop} :
    (sliceFrom xs i : Outcome ε (List α)).Sat Q E ↔ i ≤ xs.length ∧ Q (xs.drop i) := by
  by_cases h : i ≤ xs.length <;> simp [sliceFrom, h]

theorem sat_expect {o : Option α} : (expect o : Outcome ε α).Sat Q E ↔ ∃ a, o = some a ∧ Q a := by
  cases o <;> simp [expect]

theorem sat_attempt {m : Outcome ε α} {Q : Except ε α → Prop} :
    m.attempt.Sat Q E ↔ m.Sat (fun a => Q (.ok a)) (fun e => Q (.error e)) := by
  cases m <;> rfl

def Yields (o : Outcome ε α) (Q : α → Prop) : Prop := ∀ a, o = .ok a → Q a

theorem yields_ok {a : α} (h : Q a) : Yields (Outcome.ok a : Outcome ε α) Q := by
  intro b hb
  rw [← Outcome.ok.inj hb]
  exact h

theorem yields_err (e : ε) : Yields (Outcome.err e : Outcome ε α) Q := nofun

theorem yields_bind {m : Outcome ε α} {f : α → Outcome ε β} {Q : β → Prop} (h : ∀ a, Yields (f a) Q) :
    Yields (m >>= f) Q := by
  cases m with
  | ok a => exact h a
  | err e => exact nofun
  | panic => exact nofun

end Outcome

end LibDvb
