/-!
# Case

Words of protocols are compared without regard to the case of ASCII letters. Letters beyond
ASCII have one form only.
-/
namespace ExtensionPublisher.Text

/-- Text with its ASCII letters in lower case. -/
def lowered (s : String) : String := String.ofList (s.toList.map Char.toLower)

/-- Whether two texts are the same word. Only the case of ASCII letters does not
matter. -/
def sameWord (left right : String) : Bool := lowered left == lowered right

end ExtensionPublisher.Text
