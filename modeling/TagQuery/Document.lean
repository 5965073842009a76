import TagQuery.Text.Blank

/-!
# HTML documents

A text counts as an HTML document if it starts with a document type and mentions the tags of every
complete document. Case does not matter, nor do byte-order marks and blanks in front.
-/

namespace TagQuery.Document

/-- What a complete document mentions besides its document type. -/
def markers : List Text :=
  ["<html", "<head", "</head>", "<body", "</body>", "</html>"].map String.toList

/-- Whether a text looks like a complete HTML document. -/
def isHtml (text : Text) : Bool :=
  let lowered := Text.lower (Text.trimStart (text.dropWhile (· == '\ufeff')))
  Text.startsWith "<!doctype html".toList lowered &&
    markers.all fun marker => Text.contains marker lowered

end TagQuery.Document
