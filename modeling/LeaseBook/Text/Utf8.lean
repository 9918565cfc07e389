import LeaseBook.Number.Power
import LeaseBook.Text.Quoted

/-!
Decoding UTF-8 with a precise account of the first fault: where it starts, how many bytes it
takes, and what is wrong. A sequence is judged byte by byte, so a fault never covers a byte that
could start a new character.
-/

namespace LeaseBook.Text

inductive Utf8Problem where
  | start
  | continuation
  | truncated
  deriving DecidableEq, Repr

/-- The first fault of a byte sequence: `length` bytes from `position` on, the first of them
`byte`. -/
structure Utf8Fault where
  position : Nat
  length : Nat
  byte : UInt8
  problem : Utf8Problem
  deriving DecidableEq, Repr

/-- How many bytes follow a first byte, and the range the second byte is limited to. -/
def utf8Head (b : Nat) : Option (Nat × Nat × Nat) :=
  if b < 0xC2 then none
  else if b < 0xE0 then some (1, 0x80, 0xBF)
  else if b = 0xE0 then some (2, 0xA0, 0xBF)
  else if b = 0xED then some (2, 0x80, 0x9F)
  else if b < 0xF0 then some (2, 0x80, 0xBF)
  else if b = 0xF0 then some (3, 0x90, 0xBF)
  else if b = 0xF4 then some (3, 0x80, 0x8F)
  else if b < 0xF4 then some (3, 0x80, 0xBF)
  else none

/-- Takes `count` continuation bytes, the first between `low` and `high`, onto the code point
`code`. A failure is the number of bytes taken and the problem with the next. -/
def utf8Tail : Nat → Nat → Nat → Nat → Nat → List UInt8 →
    Except (Nat × Utf8Problem) (Nat × List UInt8)
  | 0, _, _, _, code, rest => .ok (code, rest)
  | _ + 1, _, _, taken, _, [] => .error (taken, .truncated)
  | count + 1, low, high, taken, code, b :: rest =>
    if low ≤ b.toNat ∧ b.toNat ≤ high then
      utf8Tail count 0x80 0xBF (taken + 1) (code * 64 + b.toNat % 64) rest
    else .error (taken, .continuation)

/-- The bits of the code point that a first byte with `count` followers holds. -/
def utf8HeadBits (count b : Nat) : Nat :=
  b % (2 ^ (6 - count))

theorem length_utf8Tail {count low high taken code : Nat} {bytes rest : List UInt8} {value : Nat}
    (h : utf8Tail count low high taken code bytes = .ok (value, rest)) :
    rest.length ≤ bytes.length := by
  induction count generalizing low high taken code bytes with
  | zero => simp only [utf8Tail, Except.ok.injEq, Prod.mk.injEq] at h; simp [h.2]
  | succ count ih =>
    cases bytes with
    | nil => simp [utf8Tail] at h
    | cons b bytes =>
      simp only [utf8Tail] at h
      split at h
      · exact Nat.le_succ_of_le (ih h)
      · simp at h

def decodeUtf8From (position : Nat) (bytes : List UInt8) : Except Utf8Fault (List Char) :=
  match bytes with
  | [] => .ok []
  | b :: rest =>
    if b.toNat < 0x80 then
      (decodeUtf8From (position + 1) rest).map (Char.ofNat b.toNat :: ·)
    else
      match utf8Head b.toNat with
      | none => .error ⟨position, 1, b, .start⟩
      | some (count, low, high) =>
        match h : utf8Tail count low high 1 (utf8HeadBits count b.toNat) rest with
        | .error (taken, problem) => .error ⟨position, taken, b, problem⟩
        | .ok (code, after) =>
          (decodeUtf8From (position + count + 1) after).map (Char.ofNat code :: ·)
termination_by bytes.length
decreasing_by
  · simp
  · have := length_utf8Tail h
    simp only [List.length_cons]
    omega

def decodeUtf8 (bytes : List UInt8) : Except Utf8Fault String :=
  (decodeUtf8From 0 bytes).map String.ofList

def Utf8Problem.message : Utf8Problem → String
  | .start => "invalid start byte"
  | .continuation => "invalid continuation byte"
  | .truncated => "unexpected end of data"

/-- The words for a fault: one byte is named by its value, several by their positions. -/
def Utf8Fault.message (f : Utf8Fault) : String :=
  let what :=
    if f.length = 1 then
      "byte 0x" ++ String.ofList (hexPad 2 f.byte.toNat) ++ " in position " ++ toString f.position
    else
      "bytes in position " ++ toString f.position ++ "-" ++ toString (f.position + f.length - 1)
  "'utf-8' codec can't decode " ++ what ++ ": " ++ f.problem.message

end LeaseBook.Text
