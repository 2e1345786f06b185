import BuildRunner.Sandbox.Shell.Reader

/-! Reading commands. A script is read one line of commands at a time, so that what stands before a
fault in it is still run. -/
namespace BuildRunner.Sandbox.Shell
namespace Parser
open Reader

/-- What surrounds the characters of a word, and so what ends them. -/
inductive Surroundings where
  | bare
  | quotes
  | document
  /-- The word that ends a document: nothing in it is expanded. -/
  | mark
  /-- An expression, with the number of its open parentheses. -/
  | arithmetic (depth : Nat)
  | braces (inQuotes : Bool)
deriving DecidableEq

namespace Surroundings

/-- Whether characters here keep their meaning as they do between double quotes. -/
def isQuoting : Surroundings → Bool
  | quotes | document | arithmetic _ | braces true => true
  | _ => false

/-- Whether a backslash guards a character between double quotes. -/
def guards (around : Surroundings) (c : Char) : Bool :=
  c == '\\' || c == '\x60' || c == '$' || (c == '"' && around != .document) ||
    (c == '}' && around == .braces true)

end Surroundings

/-- Which tokens are understood where one is read. -/
structure Expecting where
  skipsLines : Bool
  reserved : Bool
  aliases : Bool

/-- At the start of a command, on this line or a later one. -/
def commandStart : Expecting := ⟨true, true, true⟩
def anything : Expecting := ⟨false, false, false⟩

def isBlank (c : Char) : Bool := c == ' ' || c == '\t'

def endsWord (c : Char) : Bool := isBlank c || "\n;&|<>()".toList.contains c

/-- Pieces of a word, the last one first. Neighbours of one kind are one piece. -/
def addText (s : String) : Word → Word
  | .text t :: rest => .text (t ++ s) :: rest
  | parts => .text s :: parts

def addQuoted (s : String) : Word → Word
  | .quoted t :: rest => .quoted (t ++ s) :: rest
  | parts => .quoted s :: parts

def addChar (c : Char) : Word → Word
  | .text t :: rest => .text (t.push c) :: rest
  | parts => .text c.toString :: parts

/-- The name that a word without quotes and expansions is. -/
def plain? : Word → Option String
  | [] => some ""
  | [.text s] => some s
  | _ => none

def literalText (w : Word) : String :=
  String.join (w.map fun
    | .text s | .quoted s => s
    | .quotes [.text s] => s
    | _ => "")

def isQuotedPart : Part → Bool
  | .quoted _ | .quotes _ => true
  | _ => false

def isDigitWord (w : Word) : Option Nat :=
  match w with
  | [.text s] => if s.length == 1 && s.all Char.isDigit then s.toNat? else none
  | _ => none

/-- The sign of a redirection, and the descriptor it is about where none is given. -/
def redirectionSign : Parse (Nat × String) := do
  if ← takes '>' then
    if ← takes '>' then return (1, ">>")
    if ← takes '|' then return (1, ">|")
    if ← takes '&' then return (1, ">&")
    return (1, ">")
  else
    skip
    if ← takes '<' then
      if ← takes '-' then return (0, "<<-")
      return (0, "<<")
    if ← takes '&' then return (0, "<&")
    if ← takes '>' then return (0, "<>")
    return (0, "<")

/-- The operation that an expansion in braces asks for, from the character after the name. What it
says of the text to come is whether it is read as between double quotes. -/
def operation (inQuotes : Bool) : Parse (Operation × Bool) := do
  let emptyToo ← takes ':'
  match ← peek with
  | some '-' => skip; return (.orElse emptyToo, inQuotes)
  | some '+' => skip; return (.andThen emptyToo, inQuotes)
  | some '?' => skip; return (.orFail emptyToo, inQuotes)
  | some '=' => skip; return (.orAssign emptyToo, inQuotes)
  | some '%' =>
    if emptyToo then return (.malformed, inQuotes)
    skip
    return (.dropBack (← takes '%'), false)
  | some '#' =>
    if emptyToo then return (.malformed, inQuotes)
    skip
    return (.dropFront (← takes '#'), false)
  | some _ =>
    dropOne
    return (.malformed, inQuotes)
  | none => return (.malformed, inQuotes)

/-- The name of a parameter in braces: letters, digits or one special character. -/
def parameterName : Parse (Option String) := do
  match ← peek with
  | none => return none
  | some c =>
    if Name.isStart c then return some (← takeName Name.isInner 100000 "")
    else if c.isDigit then return some (← takeName Char.isDigit 100000 "")
    else if Name.isSpecial c then
      skip
      return some c.toString
    else return none

/-- The characters of an operator, or nothing where a word begins. -/
def operator? (c : Char) : Parse (Option Token) := do
  let double (c : Char) : Parse (Option Token) := do
    skip
    if ← takes c then return some (.sign (String.ofList [c, c]))
    return some (.sign c.toString)
  match c with
  | '\n' => skip; return some .lineFeed
  | '&' | '|' | ';' => double c
  | '(' | ')' => skip; return some (.sign c.toString)
  | _ => return none

def skipBlanks : Nat → Parse Unit
  | 0 => return
  | fuel + 1 => do
    match ← peek with
    | some c =>
      if isBlank c then
        skip
        skipBlanks fuel
      else if c == '#' then discard <| takeWhile (· ≠ '\n')
      else return
    | none => return

mutual

def pieces : Nat → Surroundings → Word → Parse Word
  | 0, _, _ => fail "Word too long"
  | fuel + 1, around, done => do
    match ← peek with
    | none =>
      match around with
      | .bare | .document | .mark => return done.reverse
      | .quotes | .braces true => fail "Unterminated quoted string"
      | .arithmetic _ => fail "Missing '))'"
      | .braces false => fail "Missing '\x7d'"
    | some c =>
      if (around == .bare || around == .mark) && endsWord c then return done.reverse
      skip
      match c with
      | '\\' =>
        match ← take with
        | none => pieces fuel around (addQuoted "\\" done)
        | some d =>
          if around.isQuoting && !around.guards d then
            pieces fuel around (addQuoted (String.ofList ['\\', d]) done)
          else pieces fuel around (addQuoted d.toString done)
      | '\'' =>
        if around.isQuoting then pieces fuel around (addChar c done)
        else
          let text ← takeSingleQuoted
          pieces fuel around (addQuoted text done)
      | '"' =>
        match around with
        | .quotes => return done.reverse
        | .document | .arithmetic _ => pieces fuel around (addChar c done)
        | _ =>
          let inside ← pieces fuel .quotes []
          pieces fuel around (.quotes inside :: done)
      | '$' =>
        if around == .mark then pieces fuel around (addChar c done)
        else
          let part ← dollar fuel around.isQuoting
          match part with
          | .text s => pieces fuel around (addText s done)
          | part => pieces fuel around (part :: done)
      | '\x60' =>
        if around == .mark then pieces fuel around (addChar c done)
        else
          let text ← takeBackquoted around.isQuoting 1000000 []
          let body ← within text 1 (list fuel false true [])
          pieces fuel around (.substitution body :: done)
      | '}' =>
        match around with
        | .braces _ => return done.reverse
        | _ => pieces fuel around (addChar c done)
      | '(' =>
        match around with
        | .arithmetic depth => pieces fuel (.arithmetic (depth + 1)) (addChar c done)
        | _ => pieces fuel around (addChar c done)
      | ')' =>
        match around with
        | .arithmetic 0 =>
          if ← takes ')' then return done.reverse
          pieces fuel around (addChar c done)
        | .arithmetic (depth + 1) => pieces fuel (.arithmetic depth) (addChar c done)
        | _ => pieces fuel around (addChar c done)
      | _ => pieces fuel around (addChar c done)

def dollar : Nat → Bool → Parse Part
  | 0, _ => fail "Word too long"
  | fuel + 1, inQuotes => do
    match ← peek with
    | none => return .text "$"
    | some '(' =>
      skip
      if ← takes '(' then return .arithmetic (← pieces fuel (.arithmetic 0) [])
      let outer ← get
      set { outer with pending := [] }
      let body ← list fuel false true []
      if !(← token fuel anything).isSign ")" then expected (.sign ")")
      modify fun r => { r with pending := outer.pending }
      return .substitution body
    | some '{' =>
      skip
      braces fuel inQuotes
    | some c =>
      if Name.isStart c then return .parameter (← takeName Name.isInner 100000 "") .value []
      else if Name.isSpecial c then
        skip
        return .parameter c.toString .value []
      else return .text "$"

def braces : Nat → Bool → Parse Part
  | 0, _ => fail "Word too long"
  | fuel + 1, inQuotes => do
    let rest (name : String) : Parse Part := do
      if ← takes '}' then return .parameter name .value []
      let (operation, inQuotes) ← operation inQuotes
      return .parameter name operation (← pieces fuel (.braces inQuotes) [])
    let malformed : Parse Part := do
      return .parameter "" .malformed (← pieces fuel (.braces inQuotes) [])
    match ← peek with
    | some '#' =>
      let before ← get
      skip
      match ← parameterName with
      | some name =>
        if ← takes '}' then return .parameter name .length []
        if name.all Name.isInner then malformed
        else
          set before
          skip
          rest "#"
      | none => rest "#"
    | _ =>
      match ← parameterName with
      | some name => rest name
      | none => malformed

def token : Nat → Expecting → Parse Token
  | 0, _ => fail "Word too long"
  | fuel + 1, expecting => do
    let r ← get
    let t ←
      if r.putBack then do
        set { r with putBack := false }
        pure r.last
      else do
        skipBlanks r.rest.length
        match ← peek with
        | none => pure Token.ended
        | some c =>
          match ← operator? c with
          | some t => pure t
          | none => do
            let parts ← if c == '<' || c == '>' then pure [] else pieces fuel .bare []
            let next ← peek
            let descriptor := if parts.isEmpty then some 0 else isDigitWord parts
            if descriptor.isSome && (next == some '<' || next == some '>') then
              let (usual, sign) ← redirectionSign
              pure (.redirection (if parts.isEmpty then usual else descriptor.getD usual) sign)
            else pure (.word parts (parts.any isQuotedPart))
    discard <| remember t
    match t with
    | .lineFeed =>
      if expecting.skipsLines then
        documents fuel
        token fuel expecting
      else remember t
    | .word parts false =>
      match plain? parts with
      | none => remember t
      | some name =>
        if expecting.reserved && reservedWords.contains name then remember (.sign name)
        else if expecting.aliases then
          match ← alias? name with
          | some text =>
            pushAlias name text
            token fuel expecting
          | none => remember t
        else remember t
    | _ => remember t

def documents : Nat → Parse Unit
  | 0 => return
  | fuel + 1 => do
    let r ← get
    match r.pending with
    | [] => return
    | p :: others =>
      set { r with pending := others }
      let text ← takeDocument p
      let parts ← if p.isVerbatim then pure [Part.quoted text] else within text r.line (pieces fuel .document [])
      modify fun r => { r with documents := r.documents.set! p.number [.quotes parts] }
      documents fuel

def redirection : Nat → Nat → String → Parse Redirection
  | 0, _, _ => fail "Word too long"
  | fuel + 1, descriptor, sign => do
    if sign == "<<" || sign == "<<-" then
      skipBlanks (← get).rest.length
      let parts ← pieces fuel .mark []
      if parts.isEmpty then
        discard <| token fuel anything
        unexpected
      discard <| remember (.word parts false)
      let number ← announce (literalText parts) (sign == "<<-") (parts.any isQuotedPart)
      return .document descriptor number
    else
      match ← token fuel anything with
      | .word parts _ =>
        return match sign with
          | "<" => .file descriptor .input parts
          | ">" => .file descriptor .output parts
          | ">|" => .file descriptor .overwrite parts
          | ">>" => .file descriptor .append parts
          | "<>" => .file descriptor .both parts
          | _ => .duplicate descriptor parts
      | _ => unexpected

/-- Commands one after another, up to the end of the line or to a token that ends a list. -/
def list : Nat → Bool → Bool → List Command → Parse Command
  | 0, _, _, _ => fail "Word too long"
  | fuel + 1, atLine, canEnd, done => do
    let finish (done : List Command) : Command :=
      match done with
      | [] => .nothing
      | [c] => c
      | _ => .sequence done.reverse
    let t ← token fuel ⟨!atLine, true, true⟩
    match t with
    | .lineFeed =>
      documents fuel
      discard <| remember .lineFeed
      return finish done
    | .ended =>
      documents fuel
      discard <| remember .ended
      unread
      return finish done
    | _ =>
      unread
      if !atLine && canEnd && t.endsList then return finish done
      let c ← chain fuel anything
      let t ← token fuel anything
      let done := (if t.isSign "&" then .background c else c) :: done
      match t with
      | .lineFeed | .ended =>
        unread
        list fuel atLine true done
      | _ =>
        if t.isSign "&" || t.isSign ";" then list fuel atLine true done
        else
          if atLine then unexpected
          unread
          return finish done

def chain : Nat → Expecting → Parse Command
  | 0, _ => fail "Word too long"
  | fuel + 1, expecting => do
    let first ← pipeline fuel expecting
    joined fuel first

def joined : Nat → Command → Parse Command
  | 0, _ => fail "Word too long"
  | fuel + 1, first => do
    let t ← token fuel anything
    if t.isSign "&&" then
      let second ← pipeline fuel commandStart
      joined fuel (.both first second)
    else if t.isSign "||" then
      let second ← pipeline fuel commandStart
      joined fuel (.either first second)
    else
      unread
      return first

def pipeline : Nat → Expecting → Parse Command
  | 0, _ => fail "Word too long"
  | fuel + 1, expecting => do
    let negated := (← token fuel expecting).isSign "!"
    if !negated then unread
    let first ← command fuel (if negated then ⟨false, true, true⟩ else anything)
    let all ← piped fuel [first]
    let body := match all with
      | [c] => c
      | _ => .pipeline all
    return if negated then .negation body else body

def piped : Nat → List Command → Parse (List Command)
  | 0, _ => fail "Word too long"
  | fuel + 1, done => do
    if (← token fuel anything).isSign "|" then
      let next ← command fuel commandStart
      piped fuel (next :: done)
    else
      unread
      return done.reverse

def command : Nat → Expecting → Parse Command
  | 0, _ => fail "Word too long"
  | fuel + 1, expecting => do
    let line := (← get).line
    let t ← token fuel expecting
    match t with
    | .word .. | .redirection .. =>
      unread
      simple fuel (← get).line [] [] [] true
    | .sign "if" =>
      let c ← branches fuel
      redirected fuel line c []
    | .sign "while" => do
      let condition ← list fuel false false []
      if !(← token fuel anything).isSign "do" then expected (.sign "do")
      let body ← list fuel false false []
      if !(← token fuel anything).isSign "done" then expected (.sign "done")
      redirected fuel line (.loop false condition body) []
    | .sign "until" => do
      let condition ← list fuel false false []
      if !(← token fuel anything).isSign "do" then expected (.sign "do")
      let body ← list fuel false false []
      if !(← token fuel anything).isSign "done" then expected (.sign "done")
      redirected fuel line (.loop true condition body) []
    | .sign "for" => do
      let name ← match ← token fuel anything with
        | .word parts false =>
          match plain? parts with
          | some name => if Name.isValid name then pure name else fail "Bad for loop variable"
          | none => fail "Bad for loop variable"
        | _ => fail "Bad for loop variable"
      let values ←
        if (← token fuel commandStart).isSign "in" then do
          let values ← words fuel []
          let last := (← get).last
          if !(last.isSign ";") then
            match last with
            | .lineFeed => pure ()
            | _ => unexpected
          pure values
        else do
          if !((← get).last.isSign ";") then unread
          pure [[Part.quotes [.parameter "@" .value []]]]
      if !(← token fuel commandStart).isSign "do" then expected (.sign "do")
      let body ← list fuel false false []
      if !(← token fuel anything).isSign "done" then expected (.sign "done")
      redirected fuel line (.each line name values body) []
    | .sign "case" => do
      match ← token fuel anything with
      | .word subject _ =>
        if !(← token fuel commandStart).isSign "in" then expected (.sign "in")
        let found ← clauses fuel []
        redirected fuel line (.choice line subject found) []
      | _ => expected (.word [] false)
    | .sign "(" => do
      let body ← list fuel false false []
      if !(← token fuel anything).isSign ")" then expected (.sign ")")
      let c ← redirected fuel line body []
      return match c with
        | .redirected _ body rs => .subshell line body rs
        | body => .subshell line body []
    | .sign "\x7b" => do
      let body ← list fuel false false []
      if !(← token fuel anything).isSign "\x7d" then expected (.sign "\x7d")
      redirected fuel line body []
    | _ => unexpected

def words : Nat → List Word → Parse (List Word)
  | 0, _ => fail "Word too long"
  | fuel + 1, done => do
    match ← token fuel anything with
    | .word parts _ => words fuel (parts :: done)
    | _ => return done.reverse

def branches : Nat → Parse Command
  | 0 => fail "Word too long"
  | fuel + 1 => do
    let condition ← list fuel false false []
    if !(← token fuel anything).isSign "then" then expected (.sign "then")
    let yes ← list fuel false false []
    let t ← token fuel anything
    if t.isSign "elif" then return .branch condition yes (← branches fuel)
    else
      let no ← if t.isSign "else" then list fuel false false [] else do
        unread
        pure .nothing
      if !(← token fuel anything).isSign "fi" then expected (.sign "fi")
      return .branch condition yes no

def clauses : Nat → List (List Word × Command) → Parse (List (List Word × Command))
  | 0, _ => fail "Word too long"
  | fuel + 1, done => do
    let t ← token fuel ⟨true, true, false⟩
    if t.isSign "esac" then return done.reverse
    let t ← if t.isSign "(" then token fuel anything else pure t
    let found ← patterns fuel t []
    if !((← get).last.isSign ")") then expected (.sign ")")
    let body ← list fuel false true []
    let t ← token fuel ⟨true, true, false⟩
    let done := (found, body) :: done
    if t.isSign "esac" then return done.reverse
    if !t.isSign ";;" then expected (.sign ";;")
    clauses fuel done

/-- Patterns with bars between them, from one that is already read. -/
def patterns : Nat → Token → List Word → Parse (List Word)
  | 0, _, _ => fail "Word too long"
  | fuel + 1, t, done => do
    let pattern : Word := match t with
      | .word parts _ => parts
      | .sign s => [.text s]
      | _ => []
    let done := pattern :: done
    if (← token fuel anything).isSign "|" then
      let next ← token fuel anything
      patterns fuel next done
    else return done.reverse

/-- The redirections after a compound command. -/
def redirected : Nat → Nat → Command → List Redirection → Parse Command
  | 0, _, _, _ => fail "Word too long"
  | fuel + 1, line, body, done => do
    match ← token fuel ⟨false, true, true⟩ with
    | .redirection descriptor sign =>
      let next ← redirection fuel descriptor sign
      redirected fuel line body (next :: done)
    | _ =>
      unread
      return if done.isEmpty then body else .redirected line body done.reverse

def simple : Nat → Nat → List (String × Word) → List Word → List Redirection → Bool → Parse Command
  | 0, _, _, _, _, _ => fail "Word too long"
  | fuel + 1, line, assignments, arguments, redirections, atStart => do
    let t ← token fuel ⟨false, false, atStart⟩
    match t with
    | .word parts _ =>
      match if atStart then Word.assignment? parts else none with
      | some assignment => simple fuel line (assignment :: assignments) arguments redirections true
      | none => simple fuel line assignments (parts :: arguments) redirections false
    | .redirection descriptor sign =>
      let next ← redirection fuel descriptor sign
      simple fuel line assignments arguments (next :: redirections) atStart
    | _ =>
      match t.isSign "(", arguments with
      | true, [name] =>
        if assignments.isEmpty && redirections.isEmpty then
          if !(← token fuel anything).isSign ")" then expected (.sign ")")
          match plain? name with
          | none => fail "Bad function name"
          | some name =>
            if !Name.isValid name || specialBuiltins.contains name then fail "Bad function name"
            let line := (← get).line
            return .definition name line (← command fuel commandStart)
        else
          unread
          return .simple line assignments.reverse arguments.reverse redirections.reverse
      | _, _ =>
        unread
        return .simple line assignments.reverse arguments.reverse redirections.reverse

end

/-- How deep and how long the parts of a script may be. -/
def fuel : Nat := 2000000

/-- The next line of commands, or nothing at the end of the script. -/
def next : Parse (Option Command) := do
  modify fun r => { r with putBack := false, pending := [] }
  let c ← list fuel true false []
  match c, (← get).last with
  | .nothing, .ended => return none
  | _, _ => return some c

end Parser
end BuildRunner.Sandbox.Shell
