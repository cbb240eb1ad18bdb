import NoteBoard.Text.Utf8
import NoteBoard.Token.Secret
import Std.Data.TreeMap

/-! Form tokens and their issuer. Ids count up from zero and are never used again, and no secret
is ever dropped, so a token stays valid for the life of the issuer. -/

namespace NoteBoard

structure Token where
  id : Nat
  secret : String
  deriving DecidableEq, Repr

namespace Token

def idField : String := "share_note_token_id"

def secretField : String := "share_note_token_string"

def largestId : Nat := 0xFFFFFFFFFFFFFFFF

end Token

structure Issuer where
  draws : Nat → UInt64
  /-- How many draws are used up. -/
  position : Nat
  nextId : Nat
  /-- The secrets given out, by token id. -/
  secrets : Std.TreeMap Nat String

namespace Issuer

def new (draws : Nat → UInt64) : Issuer := ⟨draws, 0, 0, ∅⟩

def size (issuer : Issuer) : Nat := issuer.secrets.size

def issue (issuer : Issuer) : Token × Issuer :=
  let (letters, position) := Secret.take issuer.draws issuer.position
  let secret := String.ofList letters
  (⟨issuer.nextId, secret⟩, { issuer with
    position
    nextId := issuer.nextId + 1
    secrets := issuer.secrets.insert issuer.nextId secret })

/-- Compares to the end, wherever the first difference is: the differences of all bytes are
gathered before any is looked at. -/
def sameBytes (stored candidate : List UInt8) : Bool :=
  if stored.length ≠ candidate.length then false
  else (List.zipWith (· ^^^ ·) stored candidate).foldl (· ||| ·) 0 == 0

def validate (issuer : Issuer) (candidate : Token) : Bool :=
  match issuer.secrets[candidate.id]? with
  | some stored => sameBytes (Utf8.encode stored.toList) (Utf8.encode candidate.secret.toList)
  | none => false

end Issuer

end NoteBoard
