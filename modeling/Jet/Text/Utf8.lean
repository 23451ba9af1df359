import Jet.Text.Quoted

/-!
# UTF-8 text

Decoding bytes as UTF-8.  Overlong forms, surrogates and code points beyond the last one are
refused.  A failure says which bytes could not be decoded and why.
-/

namespace Jet.Text.Utf8

/-- Why bytes cannot be decoded. -/
inductive Defect where
  | invalidStart
  | invalidContinuation
  | unexpectedEnd
deriving DecidableEq, Repr

/-- The wording of a defect. -/
def Defect.wording : Defect → String
  | invalidStart => "invalid start byte"
  | invalidContinuation => "invalid continuation byte"
  | unexpectedEnd => "unexpected end of data"

/-- The bytes that could not be decoded: where they are, how many, and the first of them. -/
structure Failure where
  defect : Defect
  position : Nat
  count : Nat
  byte : Nat
deriving DecidableEq, Repr

/-- The message that reports a failure. -/
def Failure.message (failure : Failure) : String :=
  let place :=
    if failure.count = 1 then
      "byte 0x" ++ hexadecimal 2 failure.byte ++ " in position " ++ toString failure.position
    else
      "bytes in position " ++ toString failure.position ++ "-" ++
        toString (failure.position + failure.count - 1)
  "'utf-8' codec can't decode " ++ place ++ ": " ++ failure.defect.wording

/-- A byte in the middle or at the end of a character. -/
def isContinuation (byte : Nat) : Bool :=
  0x80 ≤ byte && byte < 0xc0

/-- Whether a second byte is possible behind a first byte of a longer character. -/
def isSecond (first second : Nat) : Bool :=
  isContinuation second &&
    !(first == 0xe0 && second < 0xa0) && !(first == 0xed && 0xa0 ≤ second) &&
    !(first == 0xf0 && second < 0x90) && !(first == 0xf4 && 0x90 ≤ second)

/-- What the bytes begin with: a character and its size, or a defect and the bytes it covers. -/
def firstChar : List Nat → Except (Defect × Nat) (Nat × Nat)
  | [] => .error (.unexpectedEnd, 0)
  | a :: rest =>
      if a < 0x80 then .ok (a, 1)
      else if a < 0xc2 ∨ 0xf5 ≤ a then .error (.invalidStart, 1)
      else
        match rest with
        | [] => .error (.unexpectedEnd, 1)
        | b :: rest =>
            if !isSecond a b then .error (.invalidContinuation, 1)
            else if a < 0xe0 then .ok ((a - 0xc0) * 0x40 + (b - 0x80), 2)
            else
              match rest with
              | [] => .error (.unexpectedEnd, 2)
              | c :: rest =>
                  if !isContinuation c then .error (.invalidContinuation, 2)
                  else if a < 0xf0 then
                    .ok (((a - 0xe0) * 0x40 + (b - 0x80)) * 0x40 + (c - 0x80), 3)
                  else
                    match rest with
                    | [] => .error (.unexpectedEnd, 3)
                    | d :: _ =>
                        if !isContinuation d then .error (.invalidContinuation, 3)
                        else
                          .ok ((((a - 0xf0) * 0x40 + (b - 0x80)) * 0x40 + (c - 0x80)) * 0x40 +
                            (d - 0x80), 4)

/--
Decodes bytes from a position on, passing over the bytes that belong to a character already read.
-/
def decodeFrom (position : Nat) : Nat → List Nat → Except Failure (List Char)
  | _, [] => .ok []
  | pending + 1, _ :: rest => decodeFrom (position + 1) pending rest
  | 0, byte :: rest =>
      match firstChar (byte :: rest) with
      | .ok (code, size) =>
          (decodeFrom (position + 1) (size - 1) rest).map (Char.ofNat code :: ·)
      | .error (defect, count) => .error ⟨defect, position, count, byte⟩

/-- Decodes a file's bytes. -/
def decode (bytes : List Nat) : Except Failure String :=
  (decodeFrom 0 0 bytes).map String.ofList

end Jet.Text.Utf8
