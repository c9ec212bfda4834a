/-!
# Keys from terminal input

A terminal sends keys as bytes: printable characters as themselves,
control keys as control characters, and cursor and editing keys as escape
sequences.  Reading the input turns it into named keys:

* a run of printable characters (a space ends it) is one key named by the
  characters, so `q` typed alone is the key `q` and pasted `jq` is `jq`;
* `\r` is `enter`, `\t` is `tab`, DEL is `backspace`, escape alone is
  `esc`, and other control characters are `ctrl+` a letter or sign;
* `ESC [ A` to `D` (or `ESC O A` to `D`) are the arrows, `ESC [ 5 ~` and
  `ESC [ 6 ~` page up and down, and the home and end sequences `home` and
  `end`; other escape sequences are read and dropped;
* escape before another key marks it with `alt+`.
-/

namespace ParityGames

namespace Screen

/-- The name of a control character. -/
def controlName (c : Char) : String :=
  match c.toNat with
  | 0 => "ctrl+@"
  | 9 => "tab"
  | 13 => "enter"
  | 27 => "esc"
  | 28 => "ctrl+\\"
  | 29 => "ctrl+]"
  | 30 => "ctrl+^"
  | 31 => "ctrl+_"
  | 127 => "backspace"
  | n => "ctrl+" ++ String.singleton (Char.ofNat (n + 96))

/-- Whether a character is a control character. -/
def isControl (c : Char) : Bool := c.toNat < 32 || c.toNat == 127

/-- The keys named by the escape sequences that are read, with the
characters after the escape. -/
def escapeKeys : List (List Char × String) :=
  [(['[', 'A'], "up"), (['[', 'B'], "down"), (['[', 'C'], "right"), (['[', 'D'], "left"),
   (['O', 'A'], "up"), (['O', 'B'], "down"), (['O', 'C'], "right"), (['O', 'D'], "left"),
   (['[', 'H'], "home"), (['[', 'F'], "end"), (['O', 'H'], "home"), (['O', 'F'], "end"),
   (['[', '1', '~'], "home"), (['[', '4', '~'], "end"), (['[', '7', '~'], "home"),
   (['[', '8', '~'], "end"), (['[', '5', '~'], "pgup"), (['[', '6', '~'], "pgdown"),
   (['[', '2', '~'], "insert"), (['[', '3', '~'], "delete"), (['[', 'Z'], "shift+tab")]

/-- The rest of an unknown control sequence after `ESC [`: everything up to
and including its final character. -/
def dropSequence : List Char → List Char
  | [] => []
  | c :: rest => if 0x40 ≤ c.toNat && c.toNat ≤ 0x7E then rest else dropSequence rest

/-- Reads the keys of terminal input, for at most `fuel` keys. -/
def readKeys : Nat → List Char → List String
  | 0, _ => []
  | _, [] => []
  | fuel + 1, '\x1b' :: rest =>
    match escapeKeys.find? fun (seq, _) => rest.take seq.length == seq with
    | some (seq, name) => name :: readKeys fuel (rest.drop seq.length)
    | none =>
      match rest with
      | '[' :: more => readKeys fuel (dropSequence more)
      | [] => ["esc"]
      | c :: more =>
        if isControl c then ("alt+" ++ controlName c) :: readKeys fuel more
        else ("alt+" ++ String.singleton c) :: readKeys fuel more
  | fuel + 1, c :: rest =>
    if isControl c then controlName c :: readKeys fuel rest
    else if c == ' ' then " " :: readKeys fuel rest
    else
      let word := (c :: rest).takeWhile fun d => !isControl d && d != ' '
      String.ofList word :: readKeys fuel ((c :: rest).drop word.length)

/-- The keys of terminal input. -/
def keysOf (input : String) : List String := readKeys (input.length + 1) input.toList

theorem keysOf_quit : keysOf "q" = ["q"] := by decide +kernel

theorem keysOf_arrows : keysOf "\x1b[Bjq\r" = ["down", "jq", "enter"] := by decide +kernel

end Screen

end ParityGames
