import TagQuery.Transport.Punycode
import TagQuery.Unicode.Joining
import TagQuery.Unicode.Permitted

/-!
# Domain names

A domain name is a sequence of labels with dots between them. A label that starts with `xn--` is
the ASCII form of an internationalized one, and a name is accepted only if each of these stands for
a label that could have been written: of permitted characters in composed form, without a mark at
its start or a joiner that does nothing. If a label has text from right to left, every label of the
name has to run one way.
-/

namespace TagQuery.Transport.DomainName

/-- The labels of a name. -/
def labels (name : Text) : List Text := Text.splitWhere (· == '.') name

/-- Whether a text can be an internationalized label. -/
def isLabel (text : Text) : Bool :=
  text.all Unicode.isPermitted && Unicode.isComposed text && !(text.take 1).any Unicode.isMark &&
    Unicode.joinersFit [] text && text.length ≤ 1000

/-- The label that a lower-case ASCII label stands for. An ASCII form has at most 2000 characters
and does not end in a hyphen, so that something beyond ASCII is in it. -/
def decodeLabel? (label : Text) : Option Text :=
  match Text.strip? "xn--".toList label with
  | none => some label
  | some encoded =>
    if encoded.isEmpty || encoded.getLast? == some '-' || 2000 < encoded.length then none
    else (Punycode.decode? encoded).filter isLabel

/-- Whether a lower-case ASCII name is accepted. -/
def isAccepted (name : Text) : Bool :=
  match (labels name).mapM decodeLabel? with
  | none => false
  | some decoded => !decoded.any Unicode.hasRightToLeft || decoded.all Unicode.runsOneWay

end TagQuery.Transport.DomainName
