/-!
# Texts of bytes

A file holds bytes. It is a text when its bytes are UTF-8 throughout, without overlong forms and
without surrogates.
-/
namespace SchemaProjection.Text

/-- The text of bytes, if they are UTF-8. -/
def decoded? (bytes : List UInt8) : Option String := String.fromUTF8? ⟨bytes.toArray⟩

end SchemaProjection.Text
