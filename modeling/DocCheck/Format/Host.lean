import DocCheck.Text.Utf8
import DocCheck.Uri

/-!
# Names of hosts

The name of a host is a row of labels with dots between them; a label holds letters and digits of
ASCII, and hyphens inside.

* `Format.isHostName` — the names of hosts.
-/

namespace DocCheck.Format

/-- Whether a text is a label: at most 63 letters, digits and hyphens, with no hyphen at either
end. -/
def isLabel (cs : List Char) : Bool :=
  !cs.isEmpty && cs.length ≤ 63 && cs.all (fun c => c.isAlphanum || c == '-')
    && cs.head? != some '-' && cs.getLast? != some '-'

/-- Whether a text is the name of a host. -/
def isHostName (cs : List Char) : Bool :=
  Text.utf8Length cs ≤ 253 && (Uri.splitAt '.' cs).all isLabel

end DocCheck.Format
