import ServiceBinding.Handler
import ServiceBinding.Proofs.Activity
import ServiceBinding.Proofs.Response.WriteOnce

/-!
# What a legacy handler does to its response

The acts of a handler, however it chooses them by the answers it sees, come down to the list
of operations that it carries out. Main statement: the handler leaves its response as a run
of these operations leaves it, and logs nothing.
-/

namespace ServiceBinding.Act

variable {ε α : Type} {R : ResultShape ε} [Throwable ε]

def operations : Act R α → Response R → List (Operation R)
  | done _, _ => []
  | header name value next, r =>
    .header name value :: next.operations (r.writeHeader name value)
  | result value? next, r =>
    .result value? :: (next (r.writeResult value?).2).operations (r.writeResult value?).1
  | exception e next, r =>
    .exception e :: (next (r.writeException e).2).operations (r.writeException e).1
  | inspect next, r => (next r).operations r
  | pause next, r => next.operations r

def ending (a : Act R α) (r : Response R) : α := (a.perform r).result.1

theorem result_perform (a : Act R α) (r : Response R) :
    (a.perform r).result = (a.ending r, r.run (a.operations r)) := by
  refine Prod.ext rfl ?_
  induction a generalizing r with
  | done a => rfl
  | header name value next ih => exact ih _
  | result value? next ih => exact ih _ _
  | exception e next ih => exact ih _ _
  | inspect next ih => exact ih _ _
  | pause next ih => exact ih _

theorem events_perform (a : Act R α) (r : Response R) : (a.perform r).events = [] := by
  induction a generalizing r with
  | done a => rfl
  | header name value next ih => exact ih _
  | result value? next ih => exact ih _ _
  | exception e next ih => exact ih _ _
  | inspect next ih => exact ih r r
  | pause next ih => exact ih r

theorem perform_bind {β : Type} (a : Act R α) (f : α → Act R β) (r : Response R) :
    (a >>= f).perform r = a.perform r >>= fun p => (f p.1).perform p.2 := by
  induction a generalizing r with
  | done a => rfl
  | header name value next ih => exact ih _
  | result value? next ih => exact ih _ _
  | exception e next ih => exact ih _ _
  | inspect next ih => exact ih r r
  | pause next ih => exact congrArg Activity.pause (ih r)

theorem result_perform_bind {β : Type} (a : Act R α) (f : α → Act R β) (r : Response R) :
    ((a >>= f).perform r).result = ((f (a.ending r)).perform (r.run (a.operations r))).result := by
  rw [perform_bind, Activity.result_bind, result_perform a r]

end ServiceBinding.Act
