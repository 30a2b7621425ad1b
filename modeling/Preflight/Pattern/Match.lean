import Preflight.Pattern.Basic
import Preflight.Text.Blank
import Preflight.Text.Case
import Preflight.Text.Digit
import Preflight.Text.Word

/-!
# Matching

Backtracking search. `run r s k` matches `r` from the place `s` and goes on with `k`; of several ways
the first one for which `k` succeeds counts. A repetition tries no further round after one that
matched nothing.
-/

namespace Preflight.Pattern

open Text

/-- A place in a text, with the groups matched on the way. -/
structure Place where
  position : Nat
  before : List Char
  rest : List Char
  groups : List (Nat × List Char)
  deriving DecidableEq, Repr

def Category.holds (kind : Category) (ascii : Bool) (c : Char) : Bool :=
  match kind with
  | .digit => if ascii then c.isDigit else isDecimalDigit c
  | .space => isBlank c && (!ascii || (c.toNat < 128 && !(28 ≤ c.toNat && c.toNat ≤ 31)))
  | .word => if ascii then c.isAlphanum || c = '_' else isWordChar c

/-- Lower-case characters that also match the given one when case is ignored. -/
def caseKin : List (Nat × List Nat) := [
  (105, [305]), (115, [383]), (181, [956]), (305, [105]), (383, [115]), (837, [953, 8126]),
  (912, [8147]), (944, [8163]), (946, [976]), (949, [1013]), (952, [977]), (953, [837, 8126]),
  (954, [1008]), (956, [181]), (960, [982]), (961, [1009]), (962, [963]), (963, [962]),
  (966, [981]), (976, [946]), (977, [952]), (981, [966]), (982, [960]), (1008, [954]),
  (1009, [961]), (1013, [949]), (1074, [7296]), (1076, [7297]), (1086, [7298]), (1089, [7299]),
  (1090, [7300, 7301]), (1098, [7302]), (1123, [7303]), (7296, [1074]), (7297, [1076]),
  (7298, [1086]), (7299, [1089]), (7300, [1090, 7301]), (7301, [1090, 7300]), (7302, [1098]),
  (7303, [1123]), (7304, [42571]), (7777, [7835]), (7835, [7777]), (8126, [837, 953]),
  (8147, [912]), (8163, [944]), (42571, [7304]), (64261, [64262]), (64262, [64261])]

def foldCase (ascii : Bool) (c : Char) : Char := if ascii then c.toLower else lowerChar c

/-- The code points that match a character when case is ignored. -/
def caseVariants (ascii : Bool) (c : Char) : List Nat :=
  let low := (foldCase ascii c).toNat
  if ascii then
    if 97 ≤ low ∧ low ≤ 122 then [low, low - 32] else [low]
  else
    let kin := low :: (caseKin.lookup low).getD []
    kin ++ kin.flatMap lowerPreimages

def Member.holds (ignoreCase ascii : Bool) (c : Char) : Member → Bool
  | .range first last =>
    if ignoreCase then (caseVariants ascii c).any fun n => first ≤ n && n ≤ last
    else first ≤ c.toNat && c.toNat ≤ last
  | .category kind negated =>
    kind.holds ascii (if ignoreCase then foldCase ascii c else c) != negated

def Place.atBoundary (ascii : Bool) (s : Place) : Bool :=
  let word (cs : List Char) := (cs.head?.map (Category.word.holds ascii)).getD false
  word s.before != word s.rest

/-- Whether a condition holds at a place. An empty text has neither a boundary nor a place that is
none. -/
def Anchor.holds (ascii : Bool) (s : Place) : Anchor → Bool
  | .textStart => s.before.isEmpty
  | .lineStart => s.before.isEmpty || s.before.head? == some '\n'
  | .textEnd => s.rest.isEmpty
  | .lastLineEnd => s.rest.isEmpty || s.rest == ['\n']
  | .lineEnd => s.rest.isEmpty || s.rest.head? == some '\n'
  | .boundary => s.atBoundary ascii
  | .insideOrOutside => !(s.before.isEmpty && s.rest.isEmpty) && !s.atBoundary ascii

abbrev Next := Place → Option Place

abbrev Matcher := Place → Next → Option Place

def allows (most : Option Nat) (count : Nat) : Bool :=
  match most with
  | some m => count < m
  | none => true

/-- As many rounds as possible first. `last` is where the last round beyond the least number
began. -/
def greedyLoop (body : Matcher) (least : Nat) (most : Option Nat) (k : Next) :
    Nat → Nat → Option Nat → Place → Option Place
  | 0, _, _, _ => none
  | fuel + 1, count, last, s =>
    if count < least then body s (greedyLoop body least most k fuel (count + 1) last)
    else if allows most count && last != some s.position then
      (body s (greedyLoop body least most k fuel (count + 1) (some s.position))).or (k s)
    else k s

def lazyLoop (body : Matcher) (least : Nat) (most : Option Nat) (k : Next) :
    Nat → Nat → Option Nat → Place → Option Place
  | 0, _, _, _ => none
  | fuel + 1, count, last, s =>
    if count < least then body s (lazyLoop body least most k fuel (count + 1) last)
    else (k s).or
      (if allows most count && last != some s.position then
        body s (lazyLoop body least most k fuel (count + 1) (some s.position))
      else none)

def possessiveLoop (body : Matcher) (least : Nat) (most : Option Nat) :
    Nat → Nat → Option Nat → Place → Option Place
  | 0, _, _, _ => none
  | fuel + 1, count, last, s =>
    if count < least then (body s some).bind (possessiveLoop body least most fuel (count + 1) last)
    else if allows most count && last != some s.position then
      match body s some with
      | some t => possessiveLoop body least most fuel (count + 1) (some s.position) t
      | none => some s
    else some s

def Place.step (s : Place) (c : Char) (rest : List Char) : Place :=
  { s with position := s.position + 1, before := c :: s.before, rest := rest }

def Place.back (s : Place) (width : Nat) : Place :=
  { s with
    position := s.position - width
    before := s.before.drop width
    rest := (s.before.take width).reverse ++ s.rest }

/-- The place with a group holding the text since another place. -/
def Place.capture (start s : Place) (index : Nat) : Place :=
  { s with groups := (index, start.rest.take (s.position - start.position)) :: s.groups }

def Place.skip (same : Char → Char → Bool) : List Char → Place → Option Place
  | [], s => some s
  | t :: ts, s =>
    match s.rest with
    | c :: rest => if same t c then (s.step c rest).skip same ts else none
    | [] => none

def Regex.run : Regex → Matcher
  | .empty, s, k => k s
  | .any newlines, s, k =>
    match s.rest with
    | c :: rest => if newlines || c != '\n' then k (s.step c rest) else none
    | [] => none
  | .set negated members ignoreCase ascii, s, k =>
    match s.rest with
    | c :: rest =>
      if members.any (Member.holds ignoreCase ascii c) != negated then k (s.step c rest) else none
    | [] => none
  | .anchor kind ascii, s, k => if kind.holds ascii s then k s else none
  | .seq first second, s, k => first.run s fun t => second.run t k
  | .alt first second, s, k => (first.run s k).or (second.run s k)
  | .group index body, s, k => body.run s fun t => k (s.capture t index)
  | .backref index ignoreCase ascii, s, k =>
    match s.groups.lookup index with
    | some text =>
      let same := if ignoreCase then fun a b => foldCase ascii a == foldCase ascii b
        else fun a b => a == b
      (s.skip same text).bind k
    | none => none
  | .ahead negated body, s, k =>
    match body.run s some with
    | some t => if negated then none else k { s with groups := t.groups }
    | none => if negated then k s else none
  | .behind negated width body, s, k =>
    let found := if width ≤ s.position then body.run (s.back width) some else none
    match found with
    | some t => if negated then none else k { s with groups := t.groups }
    | none => if negated then k s else none
  | .atomic body, s, k => (body.run s some).bind k
  | .repeated least most greed body, s, k =>
    let fuel := least + s.rest.length + 3
    match greed with
    | .greedy => greedyLoop body.run least most k fuel 0 none s
    | .lazy => lazyLoop body.run least most k fuel 0 none s
    | .possessive => (possessiveLoop body.run least most fuel 0 none s).bind k
  | .ifGroup index yes no, s, k =>
    if (s.groups.lookup index).isSome then yes.run s k else no.run s k

def searchFrom (r : Regex) (position : Nat) (before : List Char) : List Char → Bool
  | [] => (r.run ⟨position, before, [], []⟩ some).isSome
  | c :: rest =>
    (r.run ⟨position, before, c :: rest, []⟩ some).isSome ||
      searchFrom r (position + 1) (c :: before) rest

def Regex.search (r : Regex) (text : String) : Bool := searchFrom r 0 [] text.toList

end Preflight.Pattern
