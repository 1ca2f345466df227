import GaleraProxy.Yaml.Token

/-!
# The structure of a YAML document

The tokens of a text follow a grammar of nodes. `Reader.node` reads one node and notes what it meets
as events: the scalars, and the starts and ends of sequences and mappings. `firstDocument` reads the
first document of a text; its events end where the text stops being well formed.
-/

namespace GaleraProxy.Yaml

/-- What is met in a document. An alias names the event with its anchor by position. -/
inductive EventKind where
  | alias (target : Nat)
  | scalar (tag : Option String) (text : String) (style : Style)
  | sequenceStart
  | sequenceEnd
  | mappingStart
  | mappingEnd
  deriving Repr, DecidableEq

/-- An event and where it starts and stops. -/
structure Event where
  kind : EventKind
  start : Mark
  stop : Mark
  deriving Repr

/-- The state of reading a document: the tokens to come, the events met with the latest first, the
positions of the anchors, and the tag handles. -/
structure Reader where
  scanner : Scanner
  events : List Event
  count : Nat
  anchors : List (String × Nat)
  handles : List (String × String)

/-- A step either goes on or breaks off with the events met so far. -/
abbrev ReadStep := Except (List Event) Reader

namespace Reader

/-- Break off. -/
def stop {α : Type} (r : Reader) : Except (List Event) α := .error r.events

/-- The next token. -/
def peek (r : Reader) : Except (List Event) (Token × Reader) :=
  match r.scanner.peek? with
  | some (t, scanner) => .ok (t, { r with scanner })
  | none => r.stop

/-- Pass over the next token. -/
def drop (r : Reader) : Reader := { r with scanner := r.scanner.drop }

/-- Note an event, with its anchor if it has one. -/
def emit (r : Reader) (anchor : Option String) (e : Event) : Reader :=
  { r with
    events := e :: r.events, count := r.count + 1
    anchors := match anchor with
      | some name => (name, r.count) :: r.anchors
      | none => r.anchors }

/-- Note an empty scalar. -/
def emitEmpty (r : Reader) (m : Mark) : Reader :=
  r.emit none ⟨.scalar none "" .plain, m, m⟩

/-- The properties before a node: its anchor, its tag, and where they start and stop. -/
structure Properties where
  anchor : Option String
  tag : Option String
  start : Mark
  stop : Mark

/-- The full form of a tag. -/
def resolveTag (r : Reader) (handle ending : String) : Option String :=
  if handle.isEmpty then some ending
  else (r.handles.find? fun h => h.1 == handle).map fun h => h.2 ++ ending

/-- Read the anchor and the tag of a node, in either order. -/
def properties (r : Reader) : Except (List Event) (Properties × Token × Reader) := do
  let (t, r) ← r.peek
  let first : Properties := ⟨none, none, t.start, t.start⟩
  let resolve (r : Reader) (p : Properties) (handle ending : String) (m : Mark) :
      Except (List Event) Properties :=
    match r.resolveTag handle ending with
    | some tag => .ok { p with tag := some tag, stop := m }
    | none => r.stop
  match t.kind with
  | .anchor name =>
      let p := { first with anchor := some name, stop := t.stop }
      let (u, r) ← r.drop.peek
      match u.kind with
      | .tag handle ending =>
          let (v, r') ← r.drop.peek
          let p ← resolve r p handle ending u.stop
          pure (p, v, r')
      | _ => pure (p, u, r)
  | .tag handle ending =>
      let (u, r') ← r.drop.peek
      match u.kind with
      | .anchor name =>
          let (v, r'') ← r'.drop.peek
          let p ← resolve r' { first with anchor := some name } handle ending u.stop
          pure (p, v, r'')
      | _ =>
          let p ← resolve r' first handle ending t.stop
          pure (p, u, r')
  | _ => pure (first, t, r)

/-- The tag that a scalar keeps: a lone exclamation mark asks for none. -/
def scalarTag (tag : Option String) : Option String :=
  match tag with
  | some "!" => none
  | other => other

/-- Whether a token ends the content of a document. -/
def endsDocument (k : TokenKind) : Bool :=
  match k with
  | .versionDirective .. | .tagDirective .. | .documentStart | .documentEnd | .streamEnd => true
  | _ => false

/-- Whether a token belongs to the mapping around the place of a value. -/
def endsBlockValue (k : TokenKind) : Bool := k == .key || k == .value || k == .blockEnd

/-- Note the end of a collection at the next token, which belongs to it if `own` is set. -/
def close (r : Reader) (kind : EventKind) (own : Bool) : ReadStep := do
  let (t, r) ← r.peek
  if own then pure (r.drop.emit none ⟨kind, t.start, t.stop⟩)
  else pure (r.emit none ⟨kind, t.start, t.start⟩)

mutual

/-- Read a node. Block collections are allowed where `block` is set, and sequences that are not
indented where `indentless` is. -/
def node : Nat → Bool → Bool → Reader → ReadStep
  | 0, _, _, r => r.stop
  | fuel + 1, block, indentless, r => do
      let (t, r) ← r.peek
      match t.kind with
      | .alias name =>
          match r.anchors.find? fun a => a.1 == name with
          | none => r.stop
          | some (_, target) => pure (r.drop.emit none ⟨.alias target, t.start, t.stop⟩)
      | _ =>
          let (p, t, r) ← r.properties
          let opened (kind : EventKind) : Reader := r.emit p.anchor ⟨kind, p.start, t.stop⟩
          match t.kind with
          | .blockEntry =>
              if indentless then indentlessItems fuel (opened .sequenceStart)
              else if p.anchor.isSome || p.tag.isSome then
                pure (r.emit p.anchor ⟨.scalar (scalarTag p.tag) "" .plain, p.start, p.stop⟩)
              else r.stop
          | .scalar text style =>
              let e : Event := ⟨.scalar (scalarTag p.tag) text style, p.start, t.stop⟩
              pure (r.drop.emit p.anchor e)
          | .flowSequenceStart => flowItems fuel true (opened .sequenceStart).drop
          | .flowMappingStart => flowEntries fuel true (opened .mappingStart).drop
          | .blockSequenceStart =>
              if block then blockItems fuel (opened .sequenceStart).drop else emptyNode r p
          | .blockMappingStart =>
              if block then blockEntries fuel (opened .mappingStart).drop else emptyNode r p
          | _ => emptyNode r p

/-- A node with properties and no content is an empty scalar; one with neither is not well formed.
-/
def emptyNode (r : Reader) (p : Properties) : ReadStep :=
  if p.anchor.isSome || p.tag.isSome then
    pure (r.emit p.anchor ⟨.scalar (scalarTag p.tag) "" .plain, p.start, p.stop⟩)
  else r.stop

/-- Read the items of a block sequence. -/
def blockItems : Nat → Reader → ReadStep
  | 0, r => r.stop
  | fuel + 1, r => do
      let (t, r) ← r.peek
      match t.kind with
      | .blockEntry =>
          let (u, r) ← r.drop.peek
          let r ← if u.kind == .blockEntry || u.kind == .blockEnd then pure (r.emitEmpty t.stop)
            else node fuel true false r
          blockItems fuel r
      | .blockEnd => r.close .sequenceEnd true
      | _ => r.stop

/-- Read the items of a block sequence that is not indented. -/
def indentlessItems : Nat → Reader → ReadStep
  | 0, r => r.stop
  | fuel + 1, r => do
      let (t, r) ← r.peek
      match t.kind with
      | .blockEntry =>
          let (u, r) ← r.drop.peek
          let r ← if u.kind == .blockEntry || endsBlockValue u.kind then pure (r.emitEmpty t.stop)
            else node fuel true false r
          indentlessItems fuel r
      | _ => r.close .sequenceEnd false

/-- Read the entries of a block mapping. -/
def blockEntries : Nat → Reader → ReadStep
  | 0, r => r.stop
  | fuel + 1, r => do
      let (t, r) ← r.peek
      match t.kind with
      | .key =>
          let (u, r) ← r.drop.peek
          let r ← if endsBlockValue u.kind then pure (r.emitEmpty t.stop)
            else node fuel true true r
          blockEntries fuel (← blockValue fuel r)
      | .blockEnd => r.close .mappingEnd true
      | _ => r.stop

/-- Read the value of an entry of a block mapping. -/
def blockValue : Nat → Reader → ReadStep
  | 0, r => r.stop
  | fuel + 1, r => do
      let (t, r) ← r.peek
      match t.kind with
      | .value =>
          let (u, r) ← r.drop.peek
          if endsBlockValue u.kind then pure (r.emitEmpty t.stop) else node fuel true true r
      | _ => pure (r.emitEmpty t.start)

/-- Read the items of a sequence in brackets. -/
def flowItems : Nat → Bool → Reader → ReadStep
  | 0, _, r => r.stop
  | fuel + 1, first, r => do
      let (t, r) ← r.peek
      if t.kind == .flowSequenceEnd then r.close .sequenceEnd true
      else
        let (t, r) ← if first then pure (t, r)
          else if t.kind == .flowEntry then r.drop.peek else r.stop
        match t.kind with
        | .flowSequenceEnd => r.close .sequenceEnd true
        | .key =>
            let r := r.drop.emit none ⟨.mappingStart, t.start, t.stop⟩
            flowItems fuel false (← flowPair fuel r)
        | _ => flowItems fuel false (← node fuel false false r)

/-- Read a single entry that stands as an item of a sequence in brackets. -/
def flowPair : Nat → Reader → ReadStep
  | 0, r => r.stop
  | fuel + 1, r => do
      let ends (k : TokenKind) : Bool := k == .flowEntry || k == .flowSequenceEnd
      let (t, r) ← r.peek
      let r ← if ends t.kind || t.kind == .value then pure (r.drop.emitEmpty t.stop)
        else node fuel false false r
      let (t, r) ← r.peek
      let r ← match t.kind with
        | .value => do
            let (u, r) ← r.drop.peek
            if ends u.kind then pure (r.emitEmpty u.start) else node fuel false false r
        | _ => pure (r.emitEmpty t.start)
      r.close .mappingEnd false

/-- Read the entries of a mapping in braces. -/
def flowEntries : Nat → Bool → Reader → ReadStep
  | 0, _, r => r.stop
  | fuel + 1, first, r => do
      let ends (k : TokenKind) : Bool := k == .flowEntry || k == .flowMappingEnd
      let (t, r) ← r.peek
      if t.kind == .flowMappingEnd then r.close .mappingEnd true
      else
        let (t, r) ← if first then pure (t, r)
          else if t.kind == .flowEntry then r.drop.peek else r.stop
        match t.kind with
        | .flowMappingEnd => r.close .mappingEnd true
        | .key =>
            let (u, r) ← r.drop.peek
            let r ← if ends u.kind || u.kind == .value then pure (r.emitEmpty u.start)
              else node fuel false false r
            let (t, r) ← r.peek
            let r ← match t.kind with
              | .value => do
                  let (u, r) ← r.drop.peek
                  if ends u.kind then pure (r.emitEmpty u.start) else node fuel false false r
              | _ => pure (r.emitEmpty t.start)
            flowEntries fuel false r
        | _ =>
            let r ← node fuel false false r
            let (t, r) ← r.peek
            flowEntries fuel false (r.emitEmpty t.start)

end

/-- The handles that every document knows. -/
def defaultHandles : List (String × String) := [("!", "!"), ("!!", "tag:yaml.org,2002:")]

/-- Read the directives before a document: at most one version, which must be 1.1 or 1.2, and each
handle at most once. -/
def directives : Nat → Bool → List (String × String) → Reader →
    Except (List Event) (List (String × String) × Reader)
  | 0, _, _, r => r.stop
  | fuel + 1, versioned, handles, r => do
      let (t, r) ← r.peek
      match t.kind with
      | .versionDirective major minor =>
          if versioned || major != 1 || !(minor == 1 || minor == 2) then r.stop
          else directives fuel true handles r.drop
      | .tagDirective handle expansion =>
          if handles.any fun h => h.1 == handle then r.stop
          else directives fuel versioned ((handle, expansion) :: handles) r.drop
      | _ =>
          let missing := defaultHandles.filter fun d => !handles.any fun h => h.1 == d.1
          pure (handles ++ missing, r)

/-- Pass over markers of a document's end. -/
def skipDocumentEnds : Nat → Reader → ReadStep
  | 0, r => r.stop
  | fuel + 1, r => do
      let (t, r) ← r.peek
      if t.kind == .documentEnd then skipDocumentEnds fuel r.drop else pure r

/-- Read the content of the first document. The result is `none` for a text without a document, with
the place where the text ends. -/
def document (fuel : Nat) (r : Reader) : Except (List Event) (Reader ⊕ Mark) := do
  let (t, r) ← r.peek
  let explicitly (r : Reader) : ReadStep := do
    let (handles, r) ← directives fuel false [] r
    let (t, r) ← r.peek
    if t.kind == .documentStart then
      let (u, r) ← ({ r with handles } : Reader).drop.peek
      if endsDocument u.kind then pure (r.emitEmpty u.start) else node fuel true false r
    else r.stop
  match t.kind with
  | .streamEnd => pure (.inr t.start)
  | .versionDirective .. | .tagDirective .. | .documentStart => do
      pure (.inl (← explicitly r))
  | _ => do
      pure (.inl (← node fuel true false { r with handles := defaultHandles }))

/-- Whether nothing follows a document but the end of the text. -/
def isLast (fuel : Nat) (r : Reader) : Bool :=
  match r.peek.bind fun (_, r) => (skipDocumentEnds fuel r).bind (·.peek) with
  | .ok (t, _) => t.kind == .streamEnd
  | .error _ => false

end Reader

/-- The first document of a text: its events in order, and whether it was complete and the only one.
A text without a document has a place instead. -/
inductive FirstDocument where
  | empty (at' : Mark)
  | events (events : List Event) (complete : Bool) (only : Bool)

/-- Read the first document of a text. -/
def firstDocument (text : List Char) : FirstDocument :=
  let fuel := 2 * text.length + 16
  let start : Reader :=
    { scanner := .start text, events := [], count := 0, anchors := [], handles := [] }
  if !text.all isAllowed then .events [] false false
  else
    match start.document fuel with
    | .error events => .events events.reverse false false
    | .ok (.inr m) => .empty m
    | .ok (.inl r) => .events r.events.reverse true (r.isLast fuel)

end GaleraProxy.Yaml
