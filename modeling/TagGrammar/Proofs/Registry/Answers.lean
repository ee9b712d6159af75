import TagGrammar.Proofs.Table
import TagGrammar.Registry

/-!
# Answers of operations

Looking names up changes a registry, because it keeps what it finds. The answers do not change:
`Transparent` operations answer alike on states that agree and leave a state that agrees with the
one they found, so the answer of a sequence of them is put together from the answers of its steps.
-/

namespace TagGrammar

/-! ## Results -/

@[simp] theorem bind_eq_ok_iff {ε α β : Type} {x : Except ε α} {f : α → Except ε β} {b : β} :
    x >>= f = .ok b ↔ ∃ a, x = .ok a ∧ f a = .ok b := by
  cases x with
  | error error => simp [bind, Except.bind]
  | ok a => simp [bind, Except.bind]

theorem bind_congr_of_ok {ε α β : Type} {x : Except ε α} {f g : α → Except ε β}
    (h : ∀ a, x = .ok a → f a = g a) : x >>= f = x >>= g := by
  cases x with
  | error error => rfl
  | ok a => exact h a rfl

theorem mapM_eq_ok_iff {ε α β : Type} {f : α → Except ε β} {l : List α} {bs : List β} :
    l.mapM f = .ok bs ↔ List.Forall₂ (fun a b => f a = .ok b) l bs := by
  induction l generalizing bs with
  | nil =>
    rw [List.mapM_nil, List.forall₂_nil_left_iff]
    constructor
    · exact fun h => (Except.ok.inj h).symm
    · exact fun h => h ▸ rfl
  | cons a l ih =>
    simp only [List.mapM_cons, bind_eq_ok_iff, List.forall₂_cons_left_iff, ih]
    constructor
    · rintro ⟨b, hb, rest, hrest, heq⟩
      exact ⟨b, rest, hb, hrest, (Except.ok.inj heq).symm⟩
    · rintro ⟨b, rest, hb, hrest, rfl⟩
      exact ⟨b, hb, rest, hrest, rfl⟩

theorem exists_mapM_ok {ε α β : Type} {f : α → Except ε β} {l : List α}
    (h : ∀ a ∈ l, ∃ b, f a = .ok b) : ∃ bs, l.mapM f = .ok bs := by
  simp only [mapM_eq_ok_iff]
  induction l with
  | nil => exact ⟨[], .nil⟩
  | cons a l ih =>
    obtain ⟨b, hb⟩ := h a List.mem_cons_self
    obtain ⟨bs, hbs⟩ := ih fun a ha => h a (List.mem_cons_of_mem _ ha)
    exact ⟨b :: bs, .cons hb hbs⟩

theorem mapM_congr {ε α β : Type} {f g : α → Except ε β} {l : List α} (h : ∀ a ∈ l, f a = g a) :
    l.mapM f = l.mapM g := by
  induction l with
  | nil => rfl
  | cons a l ih =>
    rw [List.forall_mem_cons] at h
    rw [List.mapM_cons, List.mapM_cons, h.1, ih h.2]

theorem mapM_eq_ok_map {ε α β : Type} {f : α → Except ε β} {g : α → β} {l : List α}
    (h : ∀ a ∈ l, f a = .ok (g a)) : l.mapM f = .ok (l.map g) := by
  rw [mapM_eq_ok_iff, List.forall₂_map_right_iff]
  exact List.forall₂_same.2 h

theorem foldlM_congr {ε α β : Type} {f g : β → α → Except ε β} {l : List α} (h : ∀ b, ∀ a ∈ l, f b a = g b a)
    (b : β) : l.foldlM f b = l.foldlM g b := by
  induction l generalizing b with
  | nil => rfl
  | cons a l ih =>
    rw [List.foldlM_cons, List.foldlM_cons, h b a List.mem_cons_self]
    congr
    funext b'
    exact ih (fun b a ha => h b a (List.mem_cons_of_mem _ ha)) b'

/-! ## Operations on any state -/

section
variable {ε σ α β : Type}

/-- The answer of an operation, whatever it leaves behind. -/
def answer (operation : EStateM ε σ α) (state : σ) : Except ε α :=
  match operation.run state with
  | .ok value _ => .ok value
  | .error error _ => .error error

/-- What an operation leaves behind, whatever its answer. -/
def leaves (operation : EStateM ε σ α) (state : σ) : σ :=
  match operation.run state with
  | .ok _ state => state
  | .error _ state => state

/-- An operation that leaves a state like the one it found and answers alike on like states. -/
structure Transparent (same : σ → σ → Prop) (operation : EStateM ε σ α) : Prop where
  keeps : ∀ s, same s (leaves operation s)
  answers : ∀ s t, same s t → answer operation s = answer operation t

theorem operation_ext {operation other : EStateM ε σ α} (hanswer : ∀ s, answer operation s = answer other s)
    (hleaves : ∀ s, leaves operation s = leaves other s) : operation = other := by
  funext s
  have h := hanswer s
  have h' := hleaves s
  unfold answer EStateM.run at h
  unfold leaves EStateM.run at h'
  cases hrun : operation s <;> cases hrun' : other s <;> simp_all

theorem answer_eq_ok_iff {operation : EStateM ε σ α} {s : σ} {value : α} :
    answer operation s = .ok value ↔ ∃ t, operation.run s = .ok value t := by
  unfold answer
  cases operation.run s <;> simp

theorem answer_bind (operation : EStateM ε σ α) (next : α → EStateM ε σ β) (s : σ) :
    answer (operation >>= next) s =
      answer operation s >>= fun value => answer (next value) (leaves operation s) := by
  simp only [answer, leaves, bind, EStateM.bind, EStateM.run]
  cases operation s <;> rfl

theorem answer_bind_of_run {operation : EStateM ε σ α} {next : α → EStateM ε σ β} {s t : σ} {value : α}
    (h : operation.run s = .ok value t) : answer (operation >>= next) s = answer (next value) t := by
  unfold answer
  rw [EStateM.run_bind, h]

theorem run_bind_eq_ok_iff {operation : EStateM ε σ α} {next : α → EStateM ε σ β} {s t : σ} {b : β} :
    (operation >>= next).run s = .ok b t ↔
      ∃ value between, operation.run s = .ok value between ∧ (next value).run between = .ok b t := by
  rw [EStateM.run_bind]
  cases operation.run s <;> simp

theorem answer_bind_pure (operation : EStateM ε σ α) (f : α → β) (s : σ) :
    answer (operation >>= fun value => pure (f value)) s = answer operation s >>= fun value => pure (f value) :=
  answer_bind operation _ s

@[simp] theorem answer_map (f : α → β) (operation : EStateM ε σ α) (s : σ) :
    answer (f <$> operation) s = f <$> answer operation s := by
  show answer (EStateM.map f operation) s = _
  simp only [answer, EStateM.map, EStateM.run]
  cases operation s <;> rfl

@[simp] theorem answer_get_bind (next : σ → EStateM ε σ α) (s : σ) :
    answer (get >>= next) s = answer (next s) s :=
  rfl

theorem leaves_bind (operation : EStateM ε σ α) (next : α → EStateM ε σ β) (s : σ) :
    leaves (operation >>= next) s =
      match answer operation s with
      | .ok value => leaves (next value) (leaves operation s)
      | .error _ => leaves operation s := by
  simp only [answer, leaves, bind, EStateM.bind, EStateM.run]
  cases operation s <;> rfl

theorem leaves_bind_pure (operation : EStateM ε σ α) (f : α → β) (s : σ) :
    leaves (operation >>= fun value => pure (f value)) s = leaves operation s := by
  rw [leaves_bind]
  cases answer operation s <;> rfl

@[simp] theorem answer_discard (operation : EStateM ε σ α) (s : σ) :
    answer (discard operation) s = (answer operation s).map fun _ => () := by
  show answer (EStateM.map (fun _ => ()) operation) s = _
  simp only [answer, EStateM.map, EStateM.run]
  cases operation s <;> rfl

@[simp] theorem leaves_discard (operation : EStateM ε σ α) (s : σ) :
    leaves (discard operation) s = leaves operation s := by
  show leaves (EStateM.map (fun _ => ()) operation) s = _
  simp only [leaves, EStateM.map, EStateM.run]
  cases operation s <;> rfl

/-- An operation that keeps a property of the state, whether it succeeds or fails. -/
def Preserves (holds : σ → Prop) (operation : EStateM ε σ α) : Prop :=
  ∀ s, holds s → holds (leaves operation s)

namespace Preserves

variable {holds : σ → Prop}

theorem pure (value : α) : Preserves holds (Pure.pure value : EStateM ε σ α) :=
  fun _ hs => hs

theorem throw (error : ε) : Preserves holds (MonadExcept.throw error : EStateM ε σ α) :=
  fun _ hs => hs

theorem bind {operation : EStateM ε σ α} (h : Preserves holds operation)
    {next : α → EStateM ε σ β} (hnext : ∀ value, Preserves holds (next value)) :
    Preserves holds (operation >>= next) := by
  intro s hs
  rw [leaves_bind]
  cases answer operation s with
  | error error => exact h s hs
  | ok value => exact hnext value _ (h s hs)

theorem get_bind {next : σ → EStateM ε σ α} (hnext : ∀ s, Preserves holds (next s)) :
    Preserves holds (get >>= next) :=
  fun s hs => hnext s s hs

theorem forM_of_mem {f : α → EStateM ε σ PUnit} {l : List α} (hf : ∀ a ∈ l, Preserves holds (f a)) :
    Preserves holds (l.forM f) := by
  induction l with
  | nil => exact fun _ hs => hs
  | cons a l ih =>
    rw [List.forall_mem_cons] at hf
    exact hf.1.bind fun _ => ih hf.2

theorem forM {f : α → EStateM ε σ PUnit} (hf : ∀ a, Preserves holds (f a)) (l : List α) :
    Preserves holds (l.forM f) :=
  forM_of_mem fun a _ => hf a

theorem mapM {f : α → EStateM ε σ β} (hf : ∀ a, Preserves holds (f a)) (l : List α) :
    Preserves holds (l.mapM f) := by
  induction l with
  | nil => exact .pure []
  | cons a l ih =>
    rw [List.mapM_cons]
    exact (hf a).bind fun b => ih.bind fun bs => .pure (b :: bs)

theorem foldlM {f : β → α → EStateM ε σ β} (hf : ∀ b a, Preserves holds (f b a)) (l : List α) (b : β) :
    Preserves holds (l.foldlM f b) := by
  induction l generalizing b with
  | nil => exact .pure b
  | cons a l ih =>
    rw [List.foldlM_cons]
    exact (hf b a).bind ih

end Preserves

/-- An operation that fails with errors of a kind only. -/
def FailsOnly (kind : ε → Prop) (operation : EStateM ε σ α) : Prop :=
  ∀ s error, answer operation s = .error error → kind error

namespace FailsOnly

variable {kind : ε → Prop}

theorem pure (value : α) : FailsOnly kind (Pure.pure value : EStateM ε σ α) := by
  intro s error h
  cases h

theorem throw {error : ε} (h : kind error) : FailsOnly kind (MonadExcept.throw error : EStateM ε σ α) := by
  intro s other hother
  cases hother
  exact h

theorem modify (f : σ → σ) : FailsOnly kind (modifyGet fun s => (PUnit.unit, f s) : EStateM ε σ PUnit) := by
  intro s error h
  cases h

theorem ofExcept {result : Except ε α} (h : ∀ error, result = .error error → kind error) :
    FailsOnly kind (MonadExcept.ofExcept result : EStateM ε σ α) := by
  cases result with
  | error error => exact throw (h error rfl)
  | ok value => exact pure value

theorem mono {other : ε → Prop} {operation : EStateM ε σ α} (h : FailsOnly other operation)
    (himp : ∀ error, other error → kind error) : FailsOnly kind operation :=
  fun s error herror => himp error (h s error herror)

theorem bind {operation : EStateM ε σ α} (h : FailsOnly kind operation) {next : α → EStateM ε σ β}
    (hnext : ∀ value, FailsOnly kind (next value)) : FailsOnly kind (operation >>= next) := by
  intro s error herror
  rw [answer_bind] at herror
  cases hanswer : answer operation s with
  | error other =>
    rw [hanswer] at herror
    cases herror
    exact h s error hanswer
  | ok value =>
    rw [hanswer] at herror
    exact hnext value _ error herror

theorem forM {f : α → EStateM ε σ PUnit} (hf : ∀ a, FailsOnly kind (f a)) (l : List α) :
    FailsOnly kind (l.forM f) := by
  induction l with
  | nil => exact pure _
  | cons a l ih => exact (hf a).bind fun _ => ih

end FailsOnly

section
variable {τ : Type}

/-- An operation that answers like another on like states, and leaves like states. -/
def Simulates (like : σ → τ → Prop) (operation : EStateM ε σ α) (reference : EStateM ε τ α) : Prop :=
  ∀ s t, like s t → answer operation s = answer reference t ∧ like (leaves operation s) (leaves reference t)

namespace Simulates

variable {like : σ → τ → Prop}

theorem pure (value : α) : Simulates like (Pure.pure value : EStateM ε σ α) (Pure.pure value) :=
  fun _ _ h => ⟨rfl, h⟩

theorem throw (error : ε) : Simulates like (MonadExcept.throw error : EStateM ε σ α) (MonadExcept.throw error) :=
  fun _ _ h => ⟨rfl, h⟩

theorem bind {operation : EStateM ε σ α} {reference : EStateM ε τ α} (h : Simulates like operation reference)
    {next : α → EStateM ε σ β} {next' : α → EStateM ε τ β}
    (hnext : ∀ value, Simulates like (next value) (next' value)) :
    Simulates like (operation >>= next) (reference >>= next') := by
  intro s t hst
  obtain ⟨hanswer, hleaves⟩ := h s t hst
  rw [answer_bind, answer_bind, leaves_bind, leaves_bind, hanswer]
  cases answer reference t with
  | error error => exact ⟨rfl, hleaves⟩
  | ok value => exact hnext value _ _ hleaves

theorem discard {operation : EStateM ε σ α} {reference : EStateM ε τ α} (h : Simulates like operation reference) :
    Simulates like (Functor.discard operation) (Functor.discard reference) := by
  intro s t hst
  rw [answer_discard, answer_discard, leaves_discard, leaves_discard, (h s t hst).1]
  exact ⟨rfl, (h s t hst).2⟩

theorem forM {f : α → EStateM ε σ PUnit} {g : α → EStateM ε τ PUnit} (hf : ∀ a, Simulates like (f a) (g a))
    (l : List α) : Simulates like (l.forM f) (l.forM g) := by
  induction l with
  | nil => exact .pure _
  | cons a l ih => exact (hf a).bind fun _ => ih

end Simulates

end

variable {same : σ → σ → Prop} (hsame : Equivalence same)

namespace Transparent

include hsame in
theorem pure (value : α) : Transparent same (Pure.pure value : EStateM ε σ α) :=
  ⟨hsame.refl, fun _ _ _ => rfl⟩

include hsame in
theorem throw (error : ε) : Transparent same (MonadExcept.throw error : EStateM ε σ α) :=
  ⟨hsame.refl, fun _ _ _ => rfl⟩

/-- What follows a transparent operation might as well start from the state before it. -/
theorem answer_bind {operation : EStateM ε σ α} (h : Transparent same operation)
    {next : α → EStateM ε σ β} (hnext : ∀ value, Transparent same (next value)) (s : σ) :
    answer (operation >>= next) s = answer operation s >>= fun value => answer (next value) s := by
  rw [TagGrammar.answer_bind]
  cases answer operation s with
  | error error => rfl
  | ok value => exact ((hnext value).answers _ _ (h.keeps s)).symm

include hsame in
theorem bind {operation : EStateM ε σ α} (h : Transparent same operation)
    {next : α → EStateM ε σ β} (hnext : ∀ value, Transparent same (next value)) :
    Transparent same (operation >>= next) := by
  constructor
  · intro s
    rw [leaves_bind]
    split
    · exact hsame.trans (h.keeps s) ((hnext _).keeps _)
    · exact h.keeps s
  · intro s t hst
    rw [h.answer_bind hnext, h.answer_bind hnext, h.answers s t hst]
    cases answer operation t with
    | error error => rfl
    | ok value => exact (hnext value).answers s t hst

/-- Reading the state is transparent if what follows makes nothing of the difference between like
states. -/
theorem get_bind {next : σ → EStateM ε σ α} (hnext : ∀ s, Transparent same (next s))
    (hlike : ∀ s t, same s t → ∀ u, answer (next s) u = answer (next t) u) :
    Transparent same (get >>= next) := by
  constructor
  · exact fun s => (hnext s).keeps s
  · intro s t hst
    exact ((hnext s).answers s t hst).trans (hlike s t hst t)

include hsame in
theorem mapM {f : α → EStateM ε σ β} (hf : ∀ a, Transparent same (f a)) (l : List α) :
    Transparent same (l.mapM f) := by
  induction l with
  | nil => exact .pure hsame []
  | cons a l ih =>
    rw [List.mapM_cons]
    exact (hf a).bind hsame fun b => ih.bind hsame fun bs => .pure hsame (b :: bs)

include hsame in
theorem foldlM {f : β → α → EStateM ε σ β} (hf : ∀ b a, Transparent same (f b a)) (l : List α)
    (b : β) : Transparent same (l.foldlM f b) := by
  induction l generalizing b with
  | nil => exact .pure hsame b
  | cons a l ih =>
    rw [List.foldlM_cons]
    exact (hf b a).bind hsame ih

include hsame in
theorem answer_mapM {f : α → EStateM ε σ β} (hf : ∀ a, Transparent same (f a)) (l : List α) (s : σ) :
    answer (l.mapM f) s = l.mapM fun a => answer (f a) s := by
  induction l with
  | nil => rfl
  | cons a l ih =>
    have hrest : ∀ b, Transparent same (l.mapM f >>= fun bs => Pure.pure (b :: bs)) := fun b =>
      (mapM hsame hf l).bind hsame fun bs => .pure hsame (b :: bs)
    rw [List.mapM_cons, List.mapM_cons, (hf a).answer_bind hrest]
    congr
    funext b
    rw [(mapM hsame hf l).answer_bind fun bs => .pure hsame (b :: bs), ih]
    rfl

include hsame in
theorem answer_foldlM {f : β → α → EStateM ε σ β} (hf : ∀ b a, Transparent same (f b a)) (l : List α)
    (b : β) (s : σ) : answer (l.foldlM f b) s = l.foldlM (fun b a => answer (f b a) s) b := by
  induction l generalizing b with
  | nil => rfl
  | cons a l ih =>
    rw [List.foldlM_cons, List.foldlM_cons, (hf b a).answer_bind fun b => foldlM hsame hf l b]
    congr
    funext b'
    exact ih b'

end Transparent

end

end TagGrammar
