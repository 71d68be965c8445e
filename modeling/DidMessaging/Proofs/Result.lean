import DidMessaging.Error
import Mathlib.Data.List.Forall2

namespace DidMessaging.Result

theorem bind_eq_ok_iff {x : Except ε α} {next : α → Except ε β} {answer : β} :
    (x >>= next) = .ok answer ↔ ∃ a, x = .ok a ∧ next a = .ok answer := by
  cases x with
  | error e => simp [bind, Except.bind]
  | ok a => simp [bind, Except.bind]

theorem check_bind_eq_ok_iff {x : Except ε Unit} {next : Unit → Except ε β} {answer : β} :
    (x >>= next) = .ok answer ↔ x = .ok () ∧ next () = .ok answer := by
  rw [bind_eq_ok_iff]
  exact ⟨fun ⟨(), checked, rest⟩ => ⟨checked, rest⟩, fun ⟨checked, rest⟩ => ⟨(), checked, rest⟩⟩

theorem bind_eq_error_iff {x : Except ε α} {next : α → Except ε β} {e : ε} :
    (x >>= next) = .error e ↔ x = .error e ∨ ∃ a, x = .ok a ∧ next a = .error e := by
  cases x with
  | error e' => simp [bind, Except.bind]
  | ok a => simp [bind, Except.bind]

theorem bind_error_of_ok {x : Except ε α} {next : α → Except ε β} {e : ε} (found : x = .ok a)
    (fails : next a = .error e) : (x >>= next) = .error e :=
  bind_eq_error_iff.mpr (.inr ⟨a, found, fails⟩)

theorem map_eq_ok_iff {x : Except ε α} {f : α → β} {answer : β} :
    x.map f = .ok answer ↔ ∃ a, x = .ok a ∧ f a = answer := by
  cases x with
  | error e => simp [Except.map]
  | ok a => simp [Except.map]

@[simp] theorem pure_eq_ok_iff {a answer : α} :
    (pure a : Except ε α) = .ok answer ↔ a = answer := by
  simp [pure, Except.pure]

@[simp] theorem throw_ne_ok {e : ε} {answer : α} : (throw e : Except ε α) ≠ .ok answer := by
  simp [throw, throwThe, MonadExceptOf.throw]

@[simp] theorem throw_bind_ne_ok {e : ε} {next : α → Except ε β} {answer : β} :
    (throw e >>= next) ≠ .ok answer := by
  simp [throw, throwThe, MonadExceptOf.throw, bind, Except.bind]

/-- A check in front of the rest of an operation. -/
theorem ite_throw_eq_ok_iff {c : Prop} [Decidable c] {e : ε} {after : α → Except ε β}
    {rest : Except ε β} {answer : β} :
    (if c then throw e >>= after else rest) = .ok answer ↔ ¬c ∧ rest = .ok answer := by
  by_cases holds : c
  · simp [holds, bind, Except.bind, throw, throwThe, MonadExceptOf.throw]
  · simp [holds]

theorem ofCheck_eq_ok_iff {x : Except Illegal α} {answer : α} :
    ofCheck x = .ok answer ↔ x = .ok answer := by
  cases x with
  | error e => simp [ofCheck, Except.mapError]
  | ok a => simp [ofCheck, Except.mapError]

theorem mapM_eq_ok_iff {f : α → Except ε β} {xs : List α} {ys : List β} :
    xs.mapM f = .ok ys ↔ List.Forall₂ (fun x y => f x = .ok y) xs ys := by
  induction xs generalizing ys with
  | nil =>
      rw [List.mapM_nil, pure_eq_ok_iff, List.forall₂_nil_left_iff, eq_comm]
  | cons x xs ih =>
      rw [List.mapM_cons, bind_eq_ok_iff, List.forall₂_cons_left_iff]
      constructor
      · rintro ⟨y, head, rest⟩
        obtain ⟨tail, tailMapped, equality⟩ := bind_eq_ok_iff.mp rest
        exact ⟨y, tail, head, ih.mp tailMapped, (pure_eq_ok_iff.mp equality).symm⟩
      · rintro ⟨y, tail, head, tailMapped, rfl⟩
        refine ⟨y, head, bind_eq_ok_iff.mpr ⟨tail, ih.mpr tailMapped, rfl⟩⟩

/-- One traversal after another is one traversal with both steps. -/
theorem mapM_bind_mapM_eq_ok_iff {f : α → Except ε β} {g : β → Except ε γ} {xs : List α}
    {zs : List γ} :
    (xs.mapM f >>= fun ys => ys.mapM g) = .ok zs ↔
      List.Forall₂ (fun x z => (f x >>= g) = .ok z) xs zs := by
  simp only [bind_eq_ok_iff, mapM_eq_ok_iff]
  constructor
  · rintro ⟨ys, first, second⟩
    induction first generalizing zs with
    | nil =>
        obtain rfl := List.forall₂_nil_left_iff.mp second
        exact .nil
    | cons head rest ih =>
        obtain ⟨z, tail, headThen, restThen, rfl⟩ := List.forall₂_cons_left_iff.mp second
        exact .cons ⟨_, head, headThen⟩ (ih restThen)
  · intro both
    induction both with
    | nil => exact ⟨[], .nil, .nil⟩
    | cons head rest ih =>
        obtain ⟨y, first, second⟩ := head
        obtain ⟨ys, rest, restThen⟩ := ih
        exact ⟨y :: ys, .cons first rest, .cons second restThen⟩

theorem exists_mapM {f : α → Except ε β} {xs : List α} (each : ∀ x ∈ xs, ∃ y, f x = .ok y) :
    ∃ ys, xs.mapM f = .ok ys := by
  induction xs with
  | nil => exact ⟨[], rfl⟩
  | cons x xs ih =>
      obtain ⟨y, head⟩ := each x List.mem_cons_self
      obtain ⟨ys, rest⟩ := ih fun x' member => each x' (List.mem_cons_of_mem x member)
      exact ⟨y :: ys, mapM_eq_ok_iff.mpr (.cons head (mapM_eq_ok_iff.mp rest))⟩

theorem map_eq_map_of_forall₂ {f : α → γ} {g : β → γ} {xs : List α} {ys : List β}
    (each : List.Forall₂ (fun x y => g y = f x) xs ys) : ys.map g = xs.map f := by
  induction each with
  | nil => rfl
  | cons same rest ih => rw [List.map_cons, List.map_cons, same, ih]

theorem exists_of_forall₂ {R : α → β → Prop} {xs : List α} {ys : List β} {y : β}
    (each : List.Forall₂ R xs ys) (member : y ∈ ys) : ∃ x ∈ xs, R x y := by
  induction each with
  | nil => contradiction
  | cons head rest ih =>
      rcases List.mem_cons.mp member with rfl | later
      · exact ⟨_, List.mem_cons_self, head⟩
      · obtain ⟨x, found, related⟩ := ih later
        exact ⟨x, List.mem_cons_of_mem _ found, related⟩

/-- Both succeed, with answers that are related, or both fail with the same error. -/
inductive Related (R : α → β → Prop) : Except ε α → Except ε β → Prop
  | ok (related : R a b) : Related R (.ok a) (.ok b)
  | error (e : ε) : Related R (.error e) (.error e)

theorem Related.bind {R : α → β → Prop} {S : γ → δ → Prop} {x : Except ε α} {y : Except ε β}
    {f : α → Except ε γ} {g : β → Except ε δ} (related : Related R x y)
    (next : ∀ a b, R a b → Related S (f a) (g b)) : Related S (x >>= f) (y >>= g) := by
  cases related with
  | ok related => exact next _ _ related
  | error e => exact .error e

theorem Related.bind_eq {R : α → β → Prop} {x : Except ε α} {y : Except ε β}
    {f : α → Except ε γ} {g : β → Except ε γ} (related : Related R x y)
    (next : ∀ a b, R a b → g b = f a) : (y >>= g) = (x >>= f) := by
  cases related with
  | ok related => exact next _ _ related
  | error e => rfl

theorem Related.mapM {R : β → γ → Prop} {f : α → Except ε β} {g : α → Except ε γ}
    (each : ∀ x, Related R (f x) (g x)) (xs : List α) :
    Related (List.Forall₂ R) (xs.mapM f) (xs.mapM g) := by
  induction xs with
  | nil => exact .ok .nil
  | cons x xs ih =>
      rw [List.mapM_cons, List.mapM_cons]
      exact (each x).bind fun _ _ head => ih.bind fun _ _ rest => .ok (.cons head rest)

theorem mapM_congr_of_forall₂ {f : α → Except ε γ} {g : β → Except ε γ} {xs : List α} {ys : List β}
    (each : List.Forall₂ (fun x y => g y = f x) xs ys) : ys.mapM g = xs.mapM f := by
  induction each with
  | nil => rfl
  | cons same rest ih => rw [List.mapM_cons, List.mapM_cons, same, ih]

end DidMessaging.Result

/-! Operations that may give nothing. -/

namespace DidMessaging.Optional

theorem rel_find? {R : α → β → Prop} {p : α → Bool} {q : β → Bool} {xs : List α} {ys : List β}
    (each : List.Forall₂ R xs ys) (same : ∀ x y, R x y → q y = p x) :
    Option.Rel R (xs.find? p) (ys.find? q) := by
  induction each with
  | nil => exact .none
  | @cons x y _ _ head rest ih =>
      rw [List.find?_cons, List.find?_cons, same x y head]
      cases p x with
      | true => exact .some head
      | false => exact ih

theorem mapM_eq_some_iff {f : α → Option β} {xs : List α} {ys : List β} :
    xs.mapM f = some ys ↔ List.Forall₂ (fun x y => f x = some y) xs ys := by
  induction xs generalizing ys with
  | nil => simp [eq_comm]
  | cons x xs ih =>
      rw [List.forall₂_cons_left_iff]
      simp only [List.mapM_cons, Option.bind_eq_bind, Option.bind_eq_some_iff, Option.pure_def,
        Option.some.injEq, ih]
      constructor
      · rintro ⟨y, head, tail, rest, rfl⟩
        exact ⟨y, tail, head, rest, rfl⟩
      · rintro ⟨y, tail, head, rest, rfl⟩
        exact ⟨y, head, tail, rest, rfl⟩

end DidMessaging.Optional

/-! Operations that may also run out of fuel. -/

namespace DidMessaging.Fuelled

theorem bind_eq_ok_iff {x : ExceptT ε Option α} {next : α → ExceptT ε Option β} {answer : β} :
    (x >>= next) = some (.ok answer) ↔ ∃ a, x = some (.ok a) ∧ next a = some (.ok answer) := by
  constructor
  · intro succeeds
    match x, succeeds with
    | some (.ok a), succeeds => exact ⟨a, rfl, succeeds⟩
  · rintro ⟨a, rfl, nextSucceeds⟩
    exact nextSucceeds

@[simp] theorem lift_ok_bind {a : α} {next : α → ExceptT ε Option β} :
    ((liftM (.ok a : Except ε α) : ExceptT ε Option α) >>= next) = next a := rfl

@[simp] theorem lift_error_bind {e : ε} {next : α → ExceptT ε Option β} :
    ((liftM (.error e : Except ε α) : ExceptT ε Option α) >>= next) =
      liftM (.error e : Except ε β) := rfl

@[simp] theorem lift_eq_ok_iff {x : Except ε α} {answer : α} :
    (liftM x : ExceptT ε Option α) = some (.ok answer) ↔ x = .ok answer :=
  Option.some_inj

@[simp] theorem pure_eq_ok_iff {a answer : α} :
    (pure a : ExceptT ε Option α) = some (.ok answer) ↔ a = answer :=
  Option.some_inj.trans (by rw [Except.ok.injEq])

theorem bind_pure_run (x : ExceptT ε Option α) (f : α → β) :
    (x >>= fun a => pure (f a)).run = x.run.map (Except.map f) := by
  match x with
  | none | some (.error e) | some (.ok a) => rfl

end DidMessaging.Fuelled

/-! Operations that draw from a stream. -/

namespace DidMessaging.Drawn

theorem bind_eq_ok_iff {x : StateT σ (Except ε) α} {next : α → StateT σ (Except ε) β} {answer : β} :
    (x >>= next) s = .ok (answer, s') ↔
      ∃ a between, x s = .ok (a, between) ∧ next a between = .ok (answer, s') := by
  constructor
  · intro succeeds
    obtain ⟨⟨a, between⟩, first, rest⟩ := Result.bind_eq_ok_iff.mp succeeds
    exact ⟨a, between, first, rest⟩
  · rintro ⟨a, between, first, rest⟩
    exact Result.bind_eq_ok_iff.mpr ⟨(a, between), first, rest⟩

theorem lift_eq_ok_iff {x : Except ε α} {answer : α} :
    (liftM x : StateT σ (Except ε) α) s = .ok (answer, s') ↔ x = .ok answer ∧ s' = s := by
  cases x with
  | error e => simp [liftM, monadLift, MonadLift.monadLift, StateT.lift, bind, Except.bind]
  | ok a =>
      simp [liftM, monadLift, MonadLift.monadLift, StateT.lift, bind, Except.bind, pure,
        Except.pure, eq_comm]

theorem lift_bind_eq_ok_iff {x : Except ε α} {next : α → StateT σ (Except ε) β} {answer : β} :
    ((liftM x : StateT σ (Except ε) α) >>= next) s = .ok (answer, s') ↔
      ∃ a, x = .ok a ∧ next a s = .ok (answer, s') := by
  rw [bind_eq_ok_iff]
  constructor
  · rintro ⟨a, between, first, rest⟩
    obtain ⟨found, rfl⟩ := lift_eq_ok_iff.mp first
    exact ⟨a, found, rest⟩
  · rintro ⟨a, found, rest⟩
    exact ⟨a, s, lift_eq_ok_iff.mpr ⟨found, rfl⟩, rest⟩

/-- A check in front of the rest of an operation. -/
theorem ite_throw_eq_ok_iff {c : Prop} [Decidable c] {e : ε}
    {after : α → StateT σ (Except ε) β} {rest : StateT σ (Except ε) β} {answer : β} :
    (if c then throw e >>= after else rest) s = .ok (answer, s') ↔
      ¬c ∧ rest s = .ok (answer, s') := by
  by_cases holds : c
  · simp [holds, throw, throwThe, MonadExceptOf.throw, StateT.lift, bind, StateT.bind, Except.bind]
  · simp [holds]

@[simp] theorem pure_eq_ok_iff {a answer : α} :
    (pure a : StateT σ (Except ε) α) s = .ok (answer, s') ↔ a = answer ∧ s = s' := by
  constructor
  · intro succeeds
    exact Prod.mk.inj (Except.ok.inj succeeds)
  · rintro ⟨rfl, rfl⟩
    rfl

end DidMessaging.Drawn
