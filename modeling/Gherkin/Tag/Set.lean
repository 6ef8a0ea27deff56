/-
  Gherkin.Tag.Set

  Tag sets: lists of tag names in order of insertion. A tag is normalised when
  it is inserted and when it is looked up: blanks around it and the at-signs in
  front of it do not count, and a tag that is empty then is no tag.
-/
import Gherkin.Text.Blank

namespace Gherkin

/-- The name of a tag: blanks at either end are dropped, then all leading at-signs. -/
def tagName (tag : String) : String :=
  .ofList ((Text.strip tag.toList).dropWhile (· == '@'))

@[simp] theorem toList_tagName (tag : String) :
    (tagName tag).toList = (Text.strip tag.toList).dropWhile (· == '@') := by
  simp [tagName]

/-- A set of tags in order of insertion. -/
structure TagSet where
  names : List String := []
  deriving DecidableEq, Repr, Inhabited

namespace TagSet

/-- The set without tags. -/
def empty : TagSet := {}

/-- The number of tags. -/
def size (tags : TagSet) : Nat := tags.names.length

/-- Whether the set holds no tag. -/
def isEmpty (tags : TagSet) : Bool := tags.names.isEmpty

/-- Whether the set holds the tag. -/
def contains (tags : TagSet) (tag : String) : Bool :=
  tags.names.contains (tagName tag)

/-- Whether inserting the tag would add a name: it has one, and the set does not hold it. -/
def admits (tags : TagSet) (tag : String) : Bool :=
  !(tagName tag).isEmpty && !tags.contains (tagName tag)

/-- The set with the tag added at the end, unless it is empty or already there. -/
def insert (tags : TagSet) (tag : String) : TagSet :=
  if tags.admits tag then ⟨tags.names ++ [tagName tag]⟩ else tags

/-- The set with all the tags added in order. -/
def extend (tags : TagSet) (more : List String) : TagSet :=
  more.foldl insert tags

/-- The set of the listed tags. -/
def ofList (tags : List String) : TagSet := empty.extend tags

/-- The tags of `parent` followed by those of `tags`: what an entity with the tags `tags` carries
    inside one with the tags `parent`. -/
def merged (tags parent : TagSet) : TagSet :=
  parent.extend tags.names

@[simp] theorem extend_nil (tags : TagSet) : tags.extend [] = tags := rfl

@[simp] theorem extend_cons (tags : TagSet) (tag : String) (more : List String) :
    tags.extend (tag :: more) = (tags.insert tag).extend more := by
  simp [extend]

theorem extend_append (tags : TagSet) (xs ys : List String) :
    tags.extend (xs ++ ys) = (tags.extend xs).extend ys := by
  simp [extend]

@[simp] theorem empty_merged (tags : TagSet) : empty.merged tags = tags := by
  simp [merged, empty]

end TagSet

end Gherkin
