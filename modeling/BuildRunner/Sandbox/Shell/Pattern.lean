import BuildRunner.Sandbox.FileSystem

/-! Patterns of a shell: stars, question marks and sets in brackets, each of them plain where it is
quoted. A pattern may be matched against a text or against the names of files. -/
namespace BuildRunner.Sandbox.Shell

abbrev Marked := Char × Bool

abbrev Pattern := List Marked

namespace Pattern

def text (p : Pattern) : String := String.ofList (p.map (·.1))

def inClass (name : String) (c : Char) : Bool :=
  let isPunctuation := '!' ≤ c && c ≤ '~' && !c.isAlphanum
  match name with
  | "alpha" => c.isAlpha
  | "digit" => c.isDigit
  | "alnum" => c.isAlphanum
  | "upper" => 'A' ≤ c && c ≤ 'Z'
  | "lower" => 'a' ≤ c && c ≤ 'z'
  | "space" => c == ' ' || (9 ≤ c.toNat && c.toNat ≤ 13)
  | "blank" => c == ' ' || c == '\t'
  | "punct" => isPunctuation
  | "print" => ' ' ≤ c && c ≤ '~'
  | "graph" => '!' ≤ c && c ≤ '~'
  | "cntrl" => c.toNat < 32 || c.toNat == 127
  | "xdigit" => c.isDigit || ('a' ≤ c.toLower && c.toLower ≤ 'f')
  | _ => false

def className? (p : Pattern) : Option (String × Pattern) :=
  match p with
  | ('[', false) :: (':', false) :: rest =>
    let name := rest.takeWhile (·.1 ≠ ':')
    match rest.drop name.length with
    | (':', _) :: (']', _) :: rest => some (text name, rest)
    | _ => none
  | _ => none

/-- Whether a set holds a character, and what follows the set; nothing if no bracket closes it. -/
def inSet (c : Char) : Nat → Bool → Bool → Pattern → Option (Bool × Pattern)
  | 0, _, _, _ => none
  | _, _, _, [] => none
  | fuel + 1, first, found, (d, quoted) :: rest =>
    if d == ']' && !quoted && !first then some (found, rest)
    else
      match className? ((d, quoted) :: rest) with
      | some (name, rest) => inSet c fuel false (found || inClass name c) rest
      | none =>
        match rest with
        | ('-', false) :: (e, quotedEnd) :: more =>
          if e == ']' && !quotedEnd then inSet c fuel false (found || c == d) rest
          else inSet c fuel false (found || (d ≤ c && c ≤ e)) more
        | _ => inSet c fuel false (found || c == d) rest

/-- The same from the opening bracket on, where a mark may invert the set. -/
def set? (c : Char) (p : Pattern) : Option (Bool × Pattern) :=
  match p with
  | ('!', false) :: rest | ('^', false) :: rest =>
    (inSet c (rest.length + 1) true false rest).map fun (found, rest) => (!found, rest)
  | rest => inSet c (rest.length + 1) true false rest

/-- Whether a pattern matches a whole text. The fuel bounds the steps, one for each character that
is passed in either. -/
def matchesFrom : Nat → Pattern → List Char → Bool
  | 0, _, _ => false
  | _, [], s => s.isEmpty
  | fuel + 1, ('*', false) :: p, s =>
    let p := p.dropWhile (· == ('*', false))
    p.isEmpty || (List.range (s.length + 1)).any fun n => matchesFrom fuel p (s.drop n)
  | _, _ :: _, [] => false
  | fuel + 1, (d, quoted) :: p, c :: s =>
    if quoted then c == d && matchesFrom fuel p s
    else if d == '?' then matchesFrom fuel p s
    else if d == '[' then
      match set? c p with
      | some (found, rest) => found && matchesFrom fuel rest s
      | none => c == '[' && matchesFrom fuel p s
    else c == d && matchesFrom fuel p s

def «matches» (p : Pattern) (s : List Char) : Bool := matchesFrom (p.length + 1) p s

def dropFront (p : Pattern) (longest : Bool) (s : List Char) : List Char :=
  let lengths := List.range (s.length + 1)
  match (if longest then lengths.reverse else lengths).find? fun n => p.matches (s.take n) with
  | some n => s.drop n
  | none => s

def dropBack (p : Pattern) (longest : Bool) (s : List Char) : List Char :=
  let lengths := List.range (s.length + 1)
  match (if longest then lengths else lengths.reverse).find? fun n => p.matches (s.drop n) with
  | some n => s.take n
  | none => s

def isOpen (p : Pattern) : Bool := p.any fun (c, quoted) => !quoted && (c == '*' || c == '?' || c == '[')

def segments (p : Pattern) : List Pattern := p.splitOnP (·.1 == '/')

/-- The paths that match segments of a pattern, each after what was matched before. -/
def pathsFrom (fs : FileSystem) (here : NodeId) : List Pattern → List String → List String
  | [], found => found
  | segment :: rest, found =>
    let last := rest.isEmpty
    let next := found.flatMap fun before =>
      if !segment.isOpen then
        let path := before ++ text segment
        if last then (if (fs.find here (if path.isEmpty then "." else path) false).isOk then [path] else [])
        else [path ++ "/"]
      else
        match fs.find here (if before.isEmpty then "." else before) true with
        | .error _ => []
        | .ok dir =>
          let names := if (fs.node dir).isDirectory then "." :: ".." :: (fs.entries dir).map (·.1) else []
          let names := names.filter fun name =>
            (!name.startsWith "." || segment.head?.any (·.1 == '.')) && segment.matches name.toList
          let names := if last then names else names.filter fun name =>
            match fs.find here (before ++ name) true with
            | .ok id => (fs.node id).isDirectory
            | .error _ => false
          names.map fun name => before ++ name ++ (if last then "" else "/")
    pathsFrom fs here rest next

/-- The paths that match a pattern, in order. -/
def paths (fs : FileSystem) (here : NodeId) (p : Pattern) : List String :=
  (pathsFrom fs here p.segments [""]).mergeSort fun a b => a ≤ b

end Pattern
end BuildRunner.Sandbox.Shell
