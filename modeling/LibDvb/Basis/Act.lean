import LibDvb.Basis.Outcome

namespace LibDvb

def Act (ε σ α : Type) : Type := σ → Outcome ε α × σ

structure Lens (σ τ : Type) where
  get : σ → τ
  set : τ → σ → σ

namespace Act

variable {ε σ τ α β : Type}

instance : Monad (Act ε σ) where
  pure a := fun s => (.ok a, s)
  bind m f := fun s =>
    match m s with
    | (.ok a, s') => f a s'
    | (.err e, s') => (.err e, s')
    | (.panic, s') => (.panic, s')

def fail (e : ε) : Act ε σ α := fun s => (.err e, s)

def fault : Act ε σ α := fun s => (.panic, s)

def get : Act ε σ σ := fun s => (.ok s, s)

def modify (f : σ → σ) : Act ε σ Unit := fun s => (.ok (), f s)

def lift (o : Outcome ε α) : Act ε σ α := fun s => (o, s)

def attempt (m : Act ε σ α) : Act ε σ (Except ε α) := fun s => ((m s).1.attempt, (m s).2)

def zoom (l : Lens σ τ) (m : Act ε τ α) : Act ε σ α := fun s =>
  ((m (l.get s)).1, l.set (m (l.get s)).2 s)

def forEach : List α → (α → Act ε σ Unit) → Act ε σ Unit
  | [], _ => pure ()
  | x :: xs, f => do
      f x
      forEach xs f

-- A panic satisfies no postcondition, so every `wp` fact also says that the program does not panic.
def wp (m : Act ε σ α) (Q : α → σ → Prop) (E : ε → σ → Prop) (s : σ) : Prop :=
  (m s).1.Sat (fun a => Q a (m s).2) (fun e => E e (m s).2)

variable {m : Act ε σ α} {Q Q' : α → σ → Prop} {E E' : ε → σ → Prop} {s : σ}

theorem wp_cases : wp m Q E s ↔
    (∃ a, (m s).1 = .ok a ∧ Q a (m s).2) ∨ (∃ e, (m s).1 = .err e ∧ E e (m s).2) := by
  unfold wp
  cases (m s).1 <;> simp

theorem wp_ok {s' : σ} {a : α} (h : wp m Q E s) (hm : m s = (.ok a, s')) : Q a s' := by
  simpa [wp, hm] using h

theorem wp_err {s' : σ} {e : ε} (h : wp m Q E s) (hm : m s = (.err e, s')) : E e s' := by
  simpa [wp, hm] using h

theorem wp_ne_panic (h : wp m Q E s) : (m s).1 ≠ .panic := Outcome.Sat.ne_panic h

theorem wp_after {I : σ → Prop} (h : wp m (fun _ => I) (fun _ => I) s) : I (m s).2 := by
  rcases wp_cases.mp h with ⟨_, _, hi⟩ | ⟨_, _, hi⟩ <;> exact hi

theorem wp_mono (h : wp m Q E s) (hq : ∀ a s', Q a s' → Q' a s')
    (he : ∀ e s', E e s' → E' e s') : wp m Q' E' s :=
  Outcome.Sat.mono h (fun a => hq a _) (fun e => he e _)

theorem run_of_wp {a : α} {t : σ} (h : wp m (fun b s' => b = a ∧ s' = t) (fun _ _ => False) s) :
    m s = (.ok a, t) := by
  rcases wp_cases.mp h with ⟨b, hb, rfl, rfl⟩ | ⟨_, _, hf⟩
  · exact Prod.ext hb rfl
  · exact hf.elim

theorem bind_run {a : α} {t : σ} {f : α → Act ε σ β} (h : m s = (.ok a, t)) : (m >>= f) s = f a t := by
  simp only [bind, h]

theorem bind_run_err {e : ε} {t : σ} {f : α → Act ε σ β} (h : m s = (.err e, t)) : (m >>= f) s = (.err e, t) := by
  simp only [bind, h]

theorem get_bind_run {f : σ → Act ε σ β} : (get >>= f) s = f s s := rfl

@[simp] theorem wp_pure {a : α} : wp (pure a : Act ε σ α) Q E s ↔ Q a s := Iff.rfl

@[simp] theorem wp_fail {e : ε} : wp (fail e : Act ε σ α) Q E s ↔ E e s := Iff.rfl

@[simp] theorem wp_fault : ¬ wp (fault : Act ε σ α) Q E s := id

@[simp] theorem wp_get {Q : σ → σ → Prop} : wp (get : Act ε σ σ) Q E s ↔ Q s s := Iff.rfl

@[simp] theorem wp_modify {f : σ → σ} {Q : Unit → σ → Prop} :
    wp (modify f : Act ε σ Unit) Q E s ↔ Q () (f s) := Iff.rfl

@[simp] theorem wp_lift {o : Outcome ε α} :
    wp (lift o : Act ε σ α) Q E s ↔ o.Sat (fun a => Q a s) (fun e => E e s) := Iff.rfl

@[simp] theorem wp_bind {f : α → Act ε σ β} {Q : β → σ → Prop} :
    wp (m >>= f) Q E s ↔ wp m (fun a s' => wp (f a) Q E s') E s := by
  show (Outcome.Sat _ _ _) ↔ (Outcome.Sat _ _ _)
  simp only [bind]
  rcases m s with ⟨o, s'⟩
  cases o <;> rfl

@[simp] theorem wp_map {f : α → β} {Q : β → σ → Prop} :
    wp (f <$> m) Q E s ↔ wp m (fun a s' => Q (f a) s') E s := by
  show wp (m >>= fun a => pure (f a)) Q E s ↔ _
  simp

@[simp] theorem wp_attempt {Q : Except ε α → σ → Prop} :
    wp (attempt m) Q E s ↔ wp m (fun a => Q (.ok a)) (fun e => Q (.error e)) s := by
  unfold wp
  exact Outcome.sat_attempt

@[simp] theorem wp_zoom {l : Lens σ τ} {m : Act ε τ α} :
    wp (zoom l m) Q E s ↔
      wp m (fun a t => Q a (l.set t s)) (fun e t => E e (l.set t s)) (l.get s) := Iff.rfl

theorem wp_forEach {xs : List α} {f : α → Act ε σ Unit} {E : ε → σ → Prop}
    (I : List α → σ → Prop)
    (hf : ∀ x rest s, x :: rest <:+ xs → I (x :: rest) s → wp (f x) (fun _ => I rest) E s) :
    ∀ s, I xs s → wp (forEach xs f) (fun _ => I []) E s := by
  induction xs with
  | nil => exact fun s h => h
  | cons x xs ih =>
      intro s h
      rw [forEach, wp_bind]
      refine wp_mono (hf x xs s List.suffix_rfl h) (fun _ s' h' => ?_) (fun _ _ he => he)
      exact ih (fun y rest s hs => hf y rest s (hs.trans (List.suffix_cons x xs))) s' h'

theorem wp_forEach_invariant {xs : List α} {f : α → Act ε σ Unit} {E : ε → σ → Prop}
    {I : σ → Prop} (hf : ∀ x ∈ xs, ∀ s, I s → wp (f x) (fun _ => I) E s) (h : I s) :
    wp (forEach xs f) (fun _ => I) E s :=
  wp_forEach (fun _ => I) (fun x _ s hs hi => hf x (hs.subset (by simp)) s hi) s h

-- As `wp`, but says nothing when the program panics.
def wlp (m : Act ε σ α) (Q : α → σ → Prop) (E : ε → σ → Prop) (s : σ) : Prop :=
  (∀ a, (m s).1 = .ok a → Q a (m s).2) ∧ (∀ e, (m s).1 = .err e → E e (m s).2)

theorem wlp_of_wp (h : wp m Q E s) : wlp m Q E s := by
  rcases wp_cases.mp h with ⟨a, ha, hq⟩ | ⟨e, he, hq⟩
  · exact ⟨fun b hb => Outcome.ok.inj (ha.symm.trans hb) ▸ hq, fun e he => nomatch ha.symm.trans he⟩
  · exact ⟨fun a ha => (nomatch he.symm.trans ha), fun b hb => Outcome.err.inj (he.symm.trans hb) ▸ hq⟩

theorem wlp_mono (h : wlp m Q E s) (hq : ∀ a s', Q a s' → Q' a s')
    (he : ∀ e s', E e s' → E' e s') : wlp m Q' E' s :=
  ⟨fun a ha => hq a _ (h.1 a ha), fun e herr => he e _ (h.2 e herr)⟩

theorem wlp_congr {m' : Act ε σ α} {t : σ} (h : m s = m' t) : wlp m Q E s ↔ wlp m' Q E t := by
  unfold wlp
  rw [h]

theorem wlp_and (h : wlp m Q E s) (h' : wlp m Q' E' s) :
    wlp m (fun a s' => Q a s' ∧ Q' a s') (fun e s' => E e s' ∧ E' e s') s :=
  ⟨fun a ha => ⟨h.1 a ha, h'.1 a ha⟩, fun e he => ⟨h.2 e he, h'.2 e he⟩⟩

theorem wlp_self (m : Act ε σ α) (s : σ) :
    wlp m (fun a s' => m s = (.ok a, s')) (fun e s' => m s = (.err e, s')) s :=
  ⟨fun _ ha => Prod.ext ha rfl, fun _ he => Prod.ext he rfl⟩

theorem wlp_run {a : α} {t : σ} (h : m s = (.ok a, t)) : wlp m Q E s ↔ Q a t := by
  unfold wlp
  rw [h]
  simp

theorem wlp_result {P : σ → Prop} {result : Except ε α} {s' : σ}
    (h : wlp m (fun _ => P) (fun _ => P) s) (hm : m s = (Outcome.ofExcept result, s')) : P s' := by
  have hstate : (m s).2 = s' := by rw [hm]
  cases result with
  | ok a => exact hstate ▸ h.1 a (by rw [hm, Outcome.ofExcept_ok])
  | error e => exact hstate ▸ h.2 e (by rw [hm, Outcome.ofExcept_error])

@[simp] theorem wlp_pure {a : α} : wlp (pure a : Act ε σ α) Q E s ↔ Q a s := by
  constructor
  · intro h
    exact h.1 a rfl
  · intro h
    exact ⟨fun b hb => Outcome.ok.inj hb ▸ h, fun e he => nomatch he⟩

@[simp] theorem wlp_fail {e : ε} : wlp (fail e : Act ε σ α) Q E s ↔ E e s := by
  constructor
  · intro h
    exact h.2 e rfl
  · intro h
    exact ⟨fun a ha => (nomatch ha), fun b hb => Outcome.err.inj hb ▸ h⟩

@[simp] theorem wlp_fault : wlp (fault : Act ε σ α) Q E s :=
  ⟨nofun, nofun⟩

@[simp] theorem wlp_get {Q : σ → σ → Prop} : wlp (get : Act ε σ σ) Q E s ↔ Q s s :=
  wlp_pure (a := s)

@[simp] theorem wlp_modify {f : σ → σ} {Q : Unit → σ → Prop} :
    wlp (modify f : Act ε σ Unit) Q E s ↔ Q () (f s) :=
  wlp_pure (s := f s)

@[simp] theorem wlp_lift {o : Outcome ε α} :
    wlp (lift o : Act ε σ α) Q E s ↔ (∀ a, o = .ok a → Q a s) ∧ (∀ e, o = .err e → E e s) := Iff.rfl

@[simp] theorem wlp_bind {f : α → Act ε σ β} {Q : β → σ → Prop} :
    wlp (m >>= f) Q E s ↔ wlp m (fun a s' => wlp (f a) Q E s') E s := by
  unfold wlp
  simp only [bind]
  rcases m s with ⟨o, s'⟩
  cases o <;> simp

@[simp] theorem wlp_map {f : α → β} {Q : β → σ → Prop} :
    wlp (f <$> m) Q E s ↔ wlp m (fun a s' => Q (f a) s') E s := by
  show wlp (m >>= fun a => pure (f a)) Q E s ↔ _
  simp only [wlp_bind, wlp_pure]

@[simp] theorem wlp_attempt {Q : Except ε α → σ → Prop} :
    wlp (attempt m) Q E s ↔ wlp m (fun a => Q (.ok a)) (fun e => Q (.error e)) s := by
  unfold wlp attempt
  rcases m s with ⟨o, s'⟩
  cases o <;> simp [Outcome.attempt]

@[simp] theorem wlp_zoom {l : Lens σ τ} {m : Act ε τ α} :
    wlp (zoom l m) Q E s ↔
      wlp m (fun a t => Q a (l.set t s)) (fun e t => E e (l.set t s)) (l.get s) := Iff.rfl

theorem wp_wlp (h : wp m Q E s) (h' : wlp m Q' E' s) :
    wp m (fun a s' => Q a s' ∧ Q' a s') (fun e s' => E e s' ∧ E' e s') s := by
  rcases wp_cases.mp h with ⟨a, ha, hq⟩ | ⟨e, he, hq⟩
  · exact wp_cases.mpr (.inl ⟨a, ha, hq, h'.1 a ha⟩)
  · exact wp_cases.mpr (.inr ⟨e, he, hq, h'.2 e he⟩)

def Keeps (R : σ → σ → Prop) (m : Act ε σ α) : Prop := ∀ s, wlp m (fun _ => R s) (fun _ => R s) s

section Keeps

variable {R : σ → σ → Prop}

theorem keeps_pure (hrefl : ∀ s, R s s) (a : α) : Keeps R (pure a : Act ε σ α) :=
  fun s => wlp_pure.mpr (hrefl s)

theorem keeps_fail (hrefl : ∀ s, R s s) (e : ε) : Keeps R (fail e : Act ε σ α) :=
  fun s => wlp_fail.mpr (hrefl s)

theorem keeps_lift (hrefl : ∀ s, R s s) (o : Outcome ε α) : Keeps R (lift o : Act ε σ α) :=
  fun s => wlp_lift.mpr ⟨fun _ _ => hrefl s, fun _ _ => hrefl s⟩

theorem keeps_modify {f : σ → σ} (h : ∀ s, R s (f s)) : Keeps R (modify f : Act ε σ Unit) :=
  fun s => wlp_modify.mpr (h s)

theorem keeps_bind (htrans : ∀ {s t u}, R s t → R t u → R s u) {f : α → Act ε σ β} (hm : Keeps R m)
    (hf : ∀ a, Keeps R (f a)) : Keeps R (m >>= f) := by
  intro s
  rw [wlp_bind]
  refine wlp_mono (hm s) (fun a t ht => ?_) fun _ _ ht => ht
  exact wlp_mono (hf a t) (fun _ _ hu => htrans ht hu) fun _ _ hu => htrans ht hu

theorem keeps_and {R' : σ → σ → Prop} (h : Keeps R m) (h' : Keeps R' m) : Keeps (fun s t => R s t ∧ R' s t) m :=
  fun s => wlp_and (h s) (h' s)

theorem keeps_get (hrefl : ∀ s, R s s) : Keeps R (get : Act ε σ σ) :=
  fun s => wlp_get.mpr (hrefl s)

theorem keeps_attempt (hm : Keeps R m) : Keeps R (attempt m) :=
  fun s => wlp_attempt.mpr (hm s)

theorem keeps_zoom {l : Lens σ τ} {m : Act ε τ α} {T : τ → τ → Prop} (hm : Keeps T m)
    (h : ∀ s t, T (l.get s) t → R s (l.set t s)) : Keeps R (zoom l m) :=
  fun s => wlp_zoom.mpr (wlp_mono (hm (l.get s)) (fun _ t ht => h s t ht) fun _ t ht => h s t ht)

theorem keeps_forEach (hrefl : ∀ s, R s s) (htrans : ∀ {s t u}, R s t → R t u → R s u) {xs : List α}
    {f : α → Act ε σ Unit} (hf : ∀ x ∈ xs, Keeps R (f x)) : Keeps R (forEach xs f) := by
  induction xs with
  | nil => exact keeps_pure hrefl ()
  | cons x xs ih =>
      rw [forEach]
      refine keeps_bind @htrans (hf x List.mem_cons_self) fun _ => ?_
      exact ih fun y hy => hf y (List.mem_cons_of_mem x hy)

theorem wp_keeps (h : wp m Q E s) (hm : Keeps R m) :
    wp m (fun a s' => Q a s' ∧ R s s') (fun e s' => E e s' ∧ R s s') s :=
  wp_wlp h (hm s)

end Keeps

def Unerring (m : Act ε σ α) : Prop := ∀ s e, (m s).1 ≠ .err e

section Unerring

theorem Unerring.wlp (h : Unerring m) (hm : wlp m Q E s) : Act.wlp m Q (fun _ _ => False) s :=
  ⟨hm.1, fun e he => h s e he⟩

theorem unerring_pure (a : α) : Unerring (pure a : Act ε σ α) := fun _ _ => nofun

theorem unerring_get : Unerring (get : Act ε σ σ) := fun _ _ => nofun

theorem unerring_modify (f : σ → σ) : Unerring (modify f : Act ε σ Unit) := fun _ _ => nofun

theorem unerring_fault : Unerring (fault : Act ε σ α) := fun _ _ => nofun

theorem unerring_lift {o : Outcome ε α} (h : ∀ e, o ≠ .err e) : Unerring (lift o : Act ε σ α) := fun _ => h

theorem unerring_attempt (m : Act ε σ α) : Unerring (attempt m) := by
  intro s e
  unfold attempt
  rcases m s with ⟨o, t⟩
  cases o <;> exact nofun

theorem unerring_zoom {l : Lens σ τ} {m : Act ε τ α} (hm : Unerring m) : Unerring (zoom l m) :=
  fun s e => hm (l.get s) e

theorem unerring_bind {f : α → Act ε σ β} (hm : Unerring m) (hf : ∀ a, Unerring (f a)) : Unerring (m >>= f) := by
  intro s e herr
  have hbind : Act.wlp (m >>= f) (fun _ _ => True) (fun _ _ => False) s := by
    rw [wlp_bind]
    exact ⟨fun a _ => ⟨fun _ _ => trivial, fun e he => hf a _ e he⟩, fun e he => hm s e he⟩
  exact hbind.2 e herr

theorem unerring_forEach {xs : List α} {f : α → Act ε σ Unit} (hf : ∀ x ∈ xs, Unerring (f x)) :
    Unerring (forEach xs f) := by
  induction xs with
  | nil => exact unerring_pure ()
  | cons x xs ih =>
      rw [forEach]
      exact unerring_bind (hf x List.mem_cons_self) fun _ => ih fun y hy => hf y (List.mem_cons_of_mem x hy)

end Unerring

end Act

end LibDvb
