import SqlCluster.Text.Printable
import SqlCluster.Url.HostName.Lenient
import SqlCluster.Url.HostName.Strict
import SqlCluster.Url.Percent

/-!
Host names of every script and their ASCII form, in which a label with other characters is written
in Punycode behind `xn--`. A name is read strictly if it can be and leniently if it cannot. Refused
are names with a character that is not seen or that leaves no trace in the ASCII form, since they
would pass for other names, and names whose ASCII form would hold more than a name, such as an
escape.
-/

namespace SqlCluster.Url.HostName

open Text

/-- Whether a character is not seen in a name or leaves no trace in its ASCII form. -/
def isHidden (c : Char) : Bool :=
  !isPrintable c || Strict.ignored.contains c || Lenient.ignored.contains c

/-- Whether a character may stand in a name in ASCII form. -/
def isNameChar (c : Char) : Bool :=
  isAlphanumeric c || "-._~!$&'()*+,;=".toList.contains c

/-- The ASCII form of a host name. -/
def toAscii? (s : List Char) : Option (List Char) :=
  if s.any isHidden then none
  else (Strict.encode? s <|> Lenient.encode? s).filter (·.all isNameChar)

theorem isNameChar_of_toAscii? {s t : List Char} (h : toAscii? s = some t) :
    ∀ c ∈ t, isNameChar c := by
  rw [toAscii?] at h
  split at h
  · simp at h
  · exact List.all_eq_true.mp (Option.filter_eq_some_iff.mp h).2

/-- The text of a host name in ASCII form. -/
def ofAscii? (s : List Char) : Option (List Char) := Strict.decode? s <|> Lenient.decode? s

end SqlCluster.Url.HostName
