import CommentTags.FoundTag
import CommentTags.Settings

/-!
Colors for tags, and the ranges to paint in them.
-/
namespace CommentTags

/-- Colors by the upper case of tag names. -/
structure Palette where
  colors : List (String × String)
  settings : HighlightSettings
deriving DecidableEq, Repr

/-- The ranges of one tag and how they are painted. -/
structure Highlight where
  tag : String
  color : String
  background : String
  border : String
  ranges : List Range
deriving DecidableEq, Repr

namespace Palette

def ofTags (tags : List Tag) (settings : HighlightSettings) : Palette :=
  ⟨tags.filterMap fun t => t.color.map (upperCase t.name, ·), settings⟩

variable (p : Palette)

/-- The first color given for the name, in any case. -/
def color (tag : String) : String :=
  (p.colors.lookup (upperCase tag)).getD p.settings.defaultColor

def background (tag : String) : String :=
  p.color tag ++ p.settings.backgroundAlpha

def highlight (tag : String) (ranges : List Range) : Highlight :=
  ⟨tag, p.color tag, p.background tag, s!"1px solid {p.color tag}", ranges⟩

/-- The groups with one more range, in the group of its tag or else in a new one at the end. -/
def add (groups : List Highlight) (found : FoundTag) : List Highlight :=
  match groups with
  | [] => [p.highlight found.tag [found.range]]
  | g :: groups =>
    if g.tag = found.tag then { g with ranges := g.ranges ++ [found.range] } :: groups
    else g :: add groups found

/-- One group for each tag, in the order of first appearance. -/
def highlights (found : List FoundTag) : List Highlight :=
  found.foldl p.add []

end Palette

end CommentTags
