/-!
# Words of a command line

A command line is cut into words as a POSIX shell does it: words are separated by blanks, single
quotes keep everything, double quotes keep everything but a backslash before a double quote or a
backslash, and a backslash outside quotes keeps the next character. Nothing is expanded and
nothing is a comment.
-/

namespace CompilerCommands.Shell

/-- Why a command line has no words: it ends too early. -/
inductive Unfinished where
  /-- Ends inside quotes. -/
  | quotation
  /-- Ends after a backslash that keeps the next character. -/
  | escape
  deriving DecidableEq, Repr

def Unfinished.message : Unfinished → String
  | quotation => "No closing quotation"
  | escape => "No escaped character"

def isSeparator (c : Char) : Bool := c == ' ' || c == '\t' || c == '\r' || c == '\n'

/-- Where a character of the line stands. -/
inductive Quoting where
  | bare
  | single
  | double
  deriving DecidableEq, Repr

/-- What a line holds from some point on: the rest of the word that is being read, if the line goes
on with it, and the words after that. -/
structure Tail where
  current : Option (List Char)
  later : List (List Char)
  deriving DecidableEq, Repr

namespace Tail

/-- The line ends. -/
def nil : Tail := ⟨none, []⟩

def words (t : Tail) : List (List Char) := t.current.toList ++ t.later

/-- Separates what comes before from the words that follow. -/
def separate (t : Tail) : Tail := ⟨none, t.words⟩

/-- Makes the current word begin here, maybe with no character. -/
def start (t : Tail) : Tail := ⟨some (t.current.getD []), t.later⟩

def push (c : Char) (t : Tail) : Tail := ⟨some (c :: t.current.getD []), t.later⟩

def pushAll (cs : List Char) (t : Tail) : Tail := cs.foldr push t

@[simp] theorem start_push (c : Char) (t : Tail) : (t.push c).start = t.push c := rfl

@[simp] theorem push_start (c : Char) (t : Tail) : t.start.push c = t.push c := rfl

theorem start_pushAll (cs : List Char) (t : Tail) :
    (t.pushAll cs).start = ⟨some (cs ++ t.current.getD []), t.later⟩ := by
  induction cs with
  | nil => rfl
  | cons c cs ih =>
    have h : (t.pushAll cs).start.push c = (t.pushAll cs).push c := rfl
    have hc : t.pushAll (c :: cs) = (t.pushAll cs).push c := rfl
    rw [hc, start_push, ← h, ih]
    rfl

theorem words_start_pushAll_separate (cs : List Char) (t : Tail) :
    (t.separate.pushAll cs).start.words = cs :: t.words := by
  simp [start_pushAll, separate, words]

end Tail

/-- Reads a line from a place with the given quoting. -/
def scan : Quoting → List Char → Except Unfinished Tail
  | .bare, [] => .ok .nil
  | .single, [] => .error .quotation
  | .double, [] => .error .quotation
  | .bare, c :: rest =>
    if isSeparator c then (scan .bare rest).map Tail.separate
    else if c = '\'' then (scan .single rest).map Tail.start
    else if c = '"' then (scan .double rest).map Tail.start
    else if c = '\\' then
      match rest with
      | [] => .error .escape
      | d :: rest => (scan .bare rest).map (Tail.push d)
    else (scan .bare rest).map (Tail.push c)
  | .single, c :: rest =>
    if c = '\'' then scan .bare rest else (scan .single rest).map (Tail.push c)
  | .double, c :: rest =>
    if c = '"' then scan .bare rest
    else if c = '\\' then
      match rest with
      | [] => .error .escape
      | d :: rest =>
        if d = '"' ∨ d = '\\' then (scan .double rest).map (Tail.push d)
        else (scan .double rest).map fun t => (t.push d).push '\\'
    else (scan .double rest).map (Tail.push c)

def wordList (line : List Char) : Except Unfinished (List (List Char)) :=
  (scan .bare line).map Tail.words

def words (line : String) : Except Unfinished (List String) :=
  (wordList line.toList).map (·.map String.ofList)

/-! ## Reading on character by character -/

@[simp] theorem scan_bare_nil : scan .bare [] = .ok .nil := rfl

@[simp] theorem scan_single_nil : scan .single [] = .error .quotation := rfl

@[simp] theorem scan_double_nil : scan .double [] = .error .quotation := rfl

theorem scan_bare_separator {c : Char} (h : isSeparator c = true) (rest : List Char) :
    scan .bare (c :: rest) = (scan .bare rest).map Tail.separate := by
  rw [scan.eq_def]; simp [h]

@[simp] theorem scan_bare_quote (rest : List Char) :
    scan .bare ('\'' :: rest) = (scan .single rest).map Tail.start := by
  rw [scan.eq_def]; simp [isSeparator]

@[simp] theorem scan_bare_doubleQuote (rest : List Char) :
    scan .bare ('"' :: rest) = (scan .double rest).map Tail.start := by
  rw [scan.eq_def]; simp [isSeparator]

@[simp] theorem scan_bare_backslash (d : Char) (rest : List Char) :
    scan .bare ('\\' :: d :: rest) = (scan .bare rest).map (Tail.push d) := by
  rw [scan.eq_def]; simp [isSeparator]

theorem scan_bare_plain {c : Char} (hs : isSeparator c = false) (hq : c ≠ '\'') (hd : c ≠ '"')
    (hb : c ≠ '\\') (rest : List Char) :
    scan .bare (c :: rest) = (scan .bare rest).map (Tail.push c) := by
  rw [scan.eq_def]; simp [hs, hq, hd, hb]

@[simp] theorem scan_single_quote (rest : List Char) :
    scan .single ('\'' :: rest) = scan .bare rest := by
  rw [scan.eq_def]; simp

theorem scan_single_plain {c : Char} (h : c ≠ '\'') (rest : List Char) :
    scan .single (c :: rest) = (scan .single rest).map (Tail.push c) := by
  rw [scan.eq_def]; simp [h]

@[simp] theorem scan_double_doubleQuote (rest : List Char) :
    scan .double ('"' :: rest) = scan .bare rest := by
  rw [scan.eq_def]; simp

theorem scan_double_plain {c : Char} (hd : c ≠ '"') (hb : c ≠ '\\') (rest : List Char) :
    scan .double (c :: rest) = (scan .double rest).map (Tail.push c) := by
  rw [scan.eq_def]; simp [hd, hb]

end CompilerCommands.Shell
