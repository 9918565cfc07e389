import LeaseBook.Fault

/-!
A clock that moves only when it is told to, and only forward.
-/

namespace LeaseBook

/-- The present instant, in milliseconds. -/
structure Clock where
  now : Int
  deriving DecidableEq

namespace Clock

def advance (c : Clock) (span : Int) : Except Fault Clock :=
  if span < 0 then .error .clockBackwards else .ok ⟨c.now + span⟩

def set (c : Clock) (now : Int) : Except Fault Clock :=
  if now < c.now then .error .clockBackwards else .ok ⟨now⟩

end Clock
end LeaseBook
