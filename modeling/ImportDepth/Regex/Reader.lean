import ImportDepth.Regex.Basic

/-! Reading regular expressions: literal and escaped code points, sets, groups with alternatives,
anchors, and the quantifiers `*` and `?`. -/
namespace ImportDepth.Regex

/-- One code point of a set, perhaps escaped, and what follows it. -/
def readMember? : Text → Option (CodePoint × Text)
  | [] => none
  | c :: rest =>
    if c = '\\' then
      match rest with
      | e :: rest => some (e, rest)
      | [] => none
    else some (c, rest)

/-- The ranges of a set up to its closing bracket, which does not stand first. A range that runs
backwards is an error. The number bounds the reading. -/
def readRanges? : Nat → Bool → Text → Option (List (Nat × Nat) × Text)
  | 0, _, _ => none
  | fuel + 1, isFirst, t =>
    match t with
    | [] => none
    | c :: rest =>
      if c = ']' ∧ !isFirst then some ([], rest)
      else do
        let (low, rest) ← readMember? t
        match rest with
        | d :: afterDash =>
          if d = '-' then
            match afterDash with
            | [] => none
            | e :: afterEnd =>
              if e = ']' then some ([(low.val, low.val), (d.val, d.val)], afterEnd)
              else
                let (high, rest) ← readMember? afterDash
                if high < low then none
                else
                  let (ranges, rest) ← readRanges? fuel false rest
                  some ((low.val, high.val) :: ranges, rest)
          else
            let (ranges, rest) ← readRanges? fuel false rest
            some ((low.val, low.val) :: ranges, rest)
        | [] => none

/-- A set whose opening bracket has been read. -/
def readSet? (t : Text) : Option (CharSet × Text) :=
  let (negated, body) := match t with
    | c :: rest => if c = '^' then (true, rest) else (false, t)
    | [] => (false, t)
  (readRanges? (body.length + 1) true body).map fun (ranges, rest) => (⟨negated, ranges⟩, rest)

def quantified (s : CharSet) (t : Text) : Regex × Text :=
  match t with
  | c :: rest =>
    if c = '*' then (many s, rest)
    else if c = '?' then (optional (one s), rest)
    else (one s, t)
  | [] => (one s, t)

/-- Alternatives up to a closing parenthesis or the end, and what follows. The number bounds the
reading. -/
def readAlternatives? : Nat → Text → Option (Regex × Text)
  | 0, _ => none
  | _ + 1, [] => some (empty, [])
  | fuel + 1, c :: rest =>
    if c = ')' then some (empty, c :: rest)
    else if c = '|' then do
      let (others, rest) ← readAlternatives? fuel rest
      some (either empty others, rest)
    else do
      let (piece, rest) ←
        if c = '(' then do
          let (group, rest) ← readAlternatives? fuel rest
          match rest with
          | _ :: q :: after => some (if q = '?' then (optional group, after) else (group, q :: after))
          | [_] => some (group, [])
          | [] => none
        else if c = '^' then some (start, rest)
        else if c = '$' then some (stop, rest)
        else if c = '[' then (readSet? rest).map fun (s, rest) => quantified s rest
        else if c = '.' then some (quantified .notNewline rest)
        else (readMember? (c :: rest)).map fun (m, rest) => quantified (.single m) rest
      let (others, rest) ← readAlternatives? fuel rest
      some (before piece others, rest)
where
  /-- A piece before the first of several alternatives. -/
  before (piece : Regex) : Regex → Regex
    | either first others => either (seq piece first) others
    | r => seq piece r

def read? (t : Text) : Option Regex :=
  match readAlternatives? (t.length + 1) t with
  | some (r, []) => some r
  | _ => none

end ImportDepth.Regex
