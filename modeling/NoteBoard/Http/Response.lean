import NoteBoard.Html.Document

/-! Answers to requests. -/

namespace NoteBoard

structure Response where
  status : Nat
  contentType : Option String
  location : Option String
  body : String
  deriving DecidableEq, Repr

namespace Response

def plainText : String := "text/plain; charset=utf-8"

def plain (status : Nat) (body : String) : Response := ⟨status, some plainText, none, body⟩

def page (document : Html.Document) : Response :=
  ⟨200, some "text/html; charset=utf-8", none, document.render⟩

/-- A header value has no controls but the tab. -/
def isHeaderValue (text : String) : Bool :=
  text.toList.all fun c => c == '\t' || (0x20 ≤ c.toNat && c.toNat != 0x7F)

/-- A redirect. A target that no header can hold is reported in the body instead. -/
def found (target : String) : Response :=
  if isHeaderValue target then ⟨302, none, some target, ""⟩
  else plain 302 "failed to parse header value"

end Response

end NoteBoard
