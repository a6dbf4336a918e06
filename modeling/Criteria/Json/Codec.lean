/-
# Criteria.Json.Codec — documents as text

How a document is written and which texts are read is up to a `Codec`; values are exchanged through any
of them. A document of a codec may hold a float that is not finite, though JSON has no text for one: it is
for the writer to put something else.

`Codec.standard` is the one that runs. Its reader gives the float nearest to a decimal number, whatever
the number of digits. Readers that round twice are faster and miss that float by one in the last place now
and then, at `449.49106478873813` for instance; such a reader is another codec.
-/
import Criteria.Json.Reader
import Criteria.Json.Writer

namespace Criteria.Json

/-- What writes documents and reads them. -/
structure Codec where
  write : Json → String
  /-- The document that a text is, if it is one. -/
  read? : String → Option Json
  /-- How deep arrays and objects may nest in what is read. -/
  depthLimit : Nat

/-- The codec of this library. -/
def Codec.standard : Codec where
  write := Json.write
  read? := ofText?
  depthLimit := Json.depthLimit

end Criteria.Json
