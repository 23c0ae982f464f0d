import ServiceBinding.Activity

/-!
# What an activity answers

Neither events nor pauses touch the answer of an activity, and activities one after the other
are one activity however they are grouped, with their events one after the other.
-/

namespace ServiceBinding.Activity

variable {α β : Type}

@[simp] theorem result_done (a : α) : (done a).result = a := rfl

@[simp] theorem result_pure (a : α) : (pure a : Activity α).result = a := rfl

@[simp] theorem result_log (e : Event) (next : Activity α) :
    (log e next).result = next.result := rfl

@[simp] theorem result_emit (e : Event) : (emit e).result = () := rfl

@[simp] theorem result_bind (a : Activity α) (f : α → Activity β) :
    (a >>= f).result = (f a.result).result := by
  induction a with
  | done a => rfl
  | log e next ih => exact ih
  | pause next ih => exact ih

@[simp] theorem result_delay (n : Nat) (a : Activity α) : (delay n a).result = a.result := by
  induction n with
  | zero => rfl
  | succ n ih => exact ih

theorem delay_bind (n : Nat) (a : Activity α) (f : α → Activity β) :
    delay n a >>= f = delay n (a >>= f) := by
  induction n with
  | zero => rfl
  | succ n ih => exact congrArg pause ih

theorem bind_done (a : Activity α) : a >>= done = a := by
  induction a with
  | done a => rfl
  | log e next ih => exact congrArg (log e) ih
  | pause next ih => exact congrArg pause ih

theorem bind_congr_result {a : Activity α} {f g : α → Activity β}
    (h : f a.result = g a.result) : a >>= f = a >>= g := by
  induction a with
  | done a => exact h
  | log e next ih => exact congrArg (log e) (ih h)
  | pause next ih => exact congrArg pause (ih h)

instance : LawfulMonad Activity :=
  LawfulMonad.mk' Activity bind_done (fun _ _ => rfl) fun a f g => by
    induction a with
    | done a => rfl
    | log e next ih => exact congrArg (log e) ih
    | pause next ih => exact congrArg pause ih

@[simp] theorem result_map (f : α → β) (a : Activity α) : (f <$> a).result = f a.result := by
  rw [← bind_pure_comp, result_bind, result_pure]

@[simp] theorem events_done (a : α) : (done a).events = [] := rfl

@[simp] theorem events_pure (a : α) : (pure a : Activity α).events = [] := rfl

@[simp] theorem events_log (e : Event) (next : Activity α) :
    (log e next).events = e :: next.events := rfl

@[simp] theorem events_emit (e : Event) : (emit e).events = [e] := rfl

@[simp] theorem events_bind (a : Activity α) (f : α → Activity β) :
    (a >>= f).events = a.events ++ (f a.result).events := by
  induction a with
  | done a => rfl
  | log e next ih => exact congrArg (List.cons e) ih
  | pause next ih => exact ih

@[simp] theorem events_map (f : α → β) (a : Activity α) : (f <$> a).events = a.events := by
  rw [← bind_pure_comp, events_bind, events_pure, List.append_nil]

@[simp] theorem events_delay (n : Nat) (a : Activity α) : (delay n a).events = a.events := by
  induction n with
  | zero => rfl
  | succ n ih => exact ih

end ServiceBinding.Activity
