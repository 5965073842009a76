import TagQuery.Selector.Basic
import TagQuery.Text.Quoted

/-!
# The written form of selectors

Classes come in the order of code points, the condition last, and expected texts are quoted. A
link that asks for nothing is written `*`.
-/

namespace TagQuery

/-- The written form of a condition. One without an expected text asks for the attribute alone,
whatever its mode. -/
def Condition.render (condition : Condition) : Text :=
  match condition.expected with
  | some expected =>
    '[' :: (condition.name ++ condition.mode.sign ++ Text.quoted expected ++ [']'])
  | none => '[' :: (condition.name ++ [']'])

/-- The written form of a link. -/
def Link.render (link : Link) : Text :=
  let tag := match link.tag with
    | some tag => tag
    | none => if link.hasQualifiers then [] else ['*']
  let id := match link.id with
    | some id => '#' :: id
    | none => []
  let classes := link.classes.toList.flatMap ('.' :: ·)
  let condition := match link.condition with
    | some condition => condition.render
    | none => []
  tag ++ id ++ classes ++ condition

/-- The written form of a selector. -/
def Selector.render : Selector → Text
  | .last link => link.render
  | .parent link child => link.render ++ ' ' :: '>' :: ' ' :: child.render

end TagQuery
