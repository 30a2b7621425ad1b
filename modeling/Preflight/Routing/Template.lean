/-!
# Path templates

A path may hold placeholders `{name}`, the name being nonempty and free of braces and slashes. A
template is the sequence of its characters and placeholders; `text_pieces` says that nothing else of
the path is lost or moved. The router writes a placeholder as `:name`.
-/

namespace Preflight.Routing

inductive Piece
  | char (c : Char)
  | param (name : List Char)
  deriving DecidableEq, Repr

def Piece.text : Piece → List Char
  | .char c => [c]
  | .param name => '\x7b' :: (name ++ ['\x7d'])

def Piece.routed : Piece → List Char
  | .char c => [c]
  | .param name => ':' :: name

/-- The parts of a path; `opened` holds what follows an opening brace that may still begin a
placeholder. -/
def scan : Option (List Char) → List Char → List Piece
  | none, [] => []
  | some name, [] => .char '\x7b' :: name.map .char
  | none, c :: s => if c = '\x7b' then scan (some []) s else .char c :: scan none s
  | some name, c :: s =>
    if c = '\x7d' then
      if name = [] then .char '\x7b' :: .char '\x7d' :: scan none s
      else .param name :: scan none s
    else if c = '\x7b' then .char '\x7b' :: (name.map .char ++ scan (some []) s)
    else if c = '/' then .char '\x7b' :: (name.map .char ++ .char '/' :: scan none s)
    else scan (some (name ++ [c])) s

def pieces (path : String) : List Piece := scan none path.toList

def params (path : String) : List String :=
  (pieces path).filterMap fun
    | .param name => some (String.ofList name)
    | .char _ => none

/-- A path with its placeholders written as router parameters. -/
def endpointPath (path : String) : String := String.ofList ((pieces path).flatMap Piece.routed)

theorem flatMap_text_map_char (s : List Char) : (s.map Piece.char).flatMap Piece.text = s := by
  induction s with
  | nil => rfl
  | cons c s ih => simp [Piece.text, ih]

theorem flatMap_text_scan (opened : Option (List Char)) (s : List Char) :
    (scan opened s).flatMap Piece.text = (opened.elim [] ('\x7b' :: ·)) ++ s := by
  induction s generalizing opened with
  | nil => cases opened <;> simp [scan, Piece.text, flatMap_text_map_char]
  | cons c s ih =>
    cases opened with
    | none =>
      by_cases h : c = '\x7b'
      · simp [scan, h, ih]
      · simp [scan, h, ih, Piece.text]
    | some name =>
      by_cases h : c = '\x7d'
      · by_cases hn : name = []
        · simp [scan, h, hn, ih, Piece.text]
        · simp [scan, h, hn, ih, Piece.text]
      · by_cases h' : c = '\x7b'
        · simp [scan, h', ih, Piece.text, flatMap_text_map_char]
        · by_cases h'' : c = '/'
          · simp [scan, h'', ih, Piece.text, flatMap_text_map_char]
          · simp [scan, h, h', h'', ih]

theorem text_pieces (path : String) : (pieces path).flatMap Piece.text = path.toList := by
  simp [pieces, flatMap_text_scan]

end Preflight.Routing
