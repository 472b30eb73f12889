import ServiceControl.Error
/-!
# The last failure of a run

A place for one error: a later one takes the place of an earlier one, and taking it out leaves the place empty.
-/
namespace ServiceControl

structure ErrorBox where
  content : Option ServiceError := none
  deriving DecidableEq, Repr, Inhabited

namespace ErrorBox

def empty : ErrorBox := ⟨none⟩

def put (_ : ErrorBox) (e : ServiceError) : ErrorBox := ⟨some e⟩

/-- The error in the box, and the box without it. -/
def take (box : ErrorBox) : Option ServiceError × ErrorBox := (box.content, empty)

def isEmpty (box : ErrorBox) : Bool := box.content.isNone

@[simp] theorem take_put (box : ErrorBox) (e : ServiceError) : (box.put e).take = (some e, empty) := rfl

@[simp] theorem isEmpty_take (box : ErrorBox) : box.take.2.isEmpty = true := rfl

end ErrorBox

end ServiceControl
