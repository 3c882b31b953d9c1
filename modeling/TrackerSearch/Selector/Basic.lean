import TrackerSearch.Html.Tree
import TrackerSearch.Text.Letter
import TrackerSearch.Text.Pieces

/-!
# Selectors

A selector is a condition on an element of a tree. Combinators lead from one element to others: the
condition `reachedBy c s` says that an element which `c` leads from fulfils `s`, and `reaches c s`
that one which `c` leads to does.
-/
namespace TrackerSearch

inductive Combinator where
  | descendant
  | child
  | next
  | sibling
  deriving Repr, DecidableEq

/-- How the value of an attribute is compared. -/
inductive AttrRelation where
  | equals
  | opens
  | closes
  | contains
  | hasWord
  | dashed
  deriving Repr, DecidableEq

/-- A demand on the value of an attribute. -/
structure AttrDemand where
  relation : AttrRelation
  value : String
  ignoreCase : Bool := false
  deriving Repr, DecidableEq

inductive Selector where
  | anything
  | nothing
  | both (a b : Selector)
  | either (a b : Selector)
  | not (a : Selector)
  | tag (name : String)
  | id (value : String)
  | hasClass (name : String)
  | attr (name : String) (demand : Option AttrDemand)
  | reachedBy (c : Combinator) (s : Selector)
  | reaches (c : Combinator) (s : Selector)
  /-- The position among the siblings that fulfil `s`, the element being one of them, counted from
  one at the given end, is `step * n + offset` for some `n ≥ 0`. -/
  | nth (fromEnd : Bool) (step offset : Int) (s : Selector)
  /-- The same among the siblings with the tag of the element. -/
  | nthOfTag (fromEnd : Bool) (step offset : Int)
  | root
  /-- The element that the selection starts from. -/
  | scope
  | empty
  /-- One of the texts occurs in the text of the element; with `own`, in a piece directly in it. -/
  | containsText (own : Bool) (texts : List String)
  | lang (ranges : List String)
  | direction (rtl : Bool)
  /-- A tag that is no name of an unknown custom element. -/
  | defined
  /-- The first submit button of a form. -/
  | firstSubmit
  /-- A radio button of a group in which none is checked. -/
  | groupUnset
  | withoutText
  /-- The value of an input is inside its bounds, or outside. -/
  | ranged (inside : Bool)
  deriving Repr, DecidableEq

namespace AttrDemand

open Text

/-- The words of a value. -/
def wordsOf (s : List Char) : List (List Char) :=
  (splitBy (fun c => c = ' ' || c = '\t' || c = '\n' || c = '\x0c' || c = '\r') s).filter
    (!·.isEmpty)

/-- Does a value meet the demand? A line feed at the end of the value does not count where the end
is compared. An empty text neither opens nor closes a value, nor is it contained in one. -/
def holds (d : AttrDemand) (value : String) : Bool :=
  let fold (s : List Char) : List Char := if d.ignoreCase then s.map lowerChar else s
  let want := fold d.value.toList
  let found := fold value.toList
  match d.relation with
  | .equals => found == want || found == want ++ ['\n']
  | .opens => !want.isEmpty && startsWith want found
  | .closes => !want.isEmpty && (endsWith want found || endsWith (want ++ ['\n']) found)
  | .contains => !want.isEmpty && occursIn want found
  | .hasWord => (wordsOf found).contains want
  | .dashed => found == want || found == want ++ ['\n'] || startsWith (want ++ ['-']) found

end AttrDemand

end TrackerSearch
