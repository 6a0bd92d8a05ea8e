import MediaPipeline.Shell.Expansion

/-!
Opening files for commands: where redirections make descriptors lead.
-/

namespace MediaPipeline.Shell

inductive Opening where
  | read
  /-- Over what the file holds; `forced` does so where that is forbidden. -/
  | write (forced : Bool)
  | append
  | both
  deriving DecidableEq

inductive OpenFault where
  | path (f : PathFault)
  | directory
  | present

namespace OpenFault

def message (d : Dialect) (opening : Opening) (path : Octets) (f : OpenFault) : Octets :=
  let why := match d, f with
    | .standard, .path .tooManyLinks => PathFault.tooManyLinks.message
    | .standard, .path _ => if opening matches .read then "No such file" else "Directory nonexistent"
    | .standard, .present => "File exists"
    | .extended, .path f => f.message
    | .extended, .present => "cannot overwrite existing file"
    | _, .directory => "Is a directory"
  let front := match d with
    | .standard => if opening matches .read then "cannot open " else "cannot create "
    | .extended => ""
  front.toList ++ path ++ ": ".toList ++ why.toList

end OpenFault

namespace Session

def openPath (opening : Opening) (path : Octets) : Session (Except OpenFault Nat) := do
  let m ← get
  let reads := opening == .read || opening == .both
  let writes := opening != .read
  let give (s : Stream) : Session (Except OpenFault Nat) :=
    return .ok (← openFile ⟨s, reads, writes⟩)
  let openAt (place : Place) (d : Document) : Session (Except OpenFault Nat) := do
    match opening with
    | .write forced =>
      if m.hasFlag 'C' && !forced then pure (.error .present)
      else do
        set { m with files := m.files.write place [] d.mode }
        give (.document place 0 false)
    | opening => give (.document place 0 (opening == .append))
  match m.files.resolve path true with
  | .error f => pure (.error (.path f))
  | .ok (place, some (.document d)) => openAt place d
  | .ok (_, some (.device (.descriptor n))) =>
    match m.descriptors.lookup n with
    | none => pure (.error (.path .missing))
    | some i =>
      match m.streams[i]?.map OpenFile.stream with
      | some (.document place ..) =>
        match m.files.at? place with
        | some (.document d) => openAt place d
        | _ => pure (.ok i)
      | _ => pure (.ok i)
  | .ok (place, some (.device (.pipe held))) =>
    if opening != .read then give (.channel place)
    else if held.isEmpty && m.patient then throw .stuck
    else do
      set (changePipe place (fun _ => []) m)
      return .ok (← openText held)
  | .ok (_, some (.device d)) => give (.device d)
  | .ok (_, some .directory) => if writes then pure (.error .directory) else give .directory
  | .ok (_, some _) => give (.device .null)
  | .ok (place, none) =>
    if opening == .read then pure (.error (.path .missing))
    else do
      set { m with files := m.files.write place [] (Nat.land 0o666 (0o777 - m.mask)) }
      give (.document place 0 (opening == .append))

end Session

/-! ### Redirections -/

def RedirectKind.descriptor : RedirectKind → Nat
  | read | both | here _ | hereWord | duplicate true => 0
  | _ => 1

def Machine.freeDescriptor (m : Machine) : Nat :=
  ((List.range 200).find? fun n => 10 ≤ n && (m.descriptors.lookup n).isNone).getD 10

/-- What becomes of a redirection: a message, or the open file that its descriptors lead to. -/
abbrev Redirected := Except Octets (Option Nat)

def redirectToFile (e : Engine) (opening : Opening) (target : Word) (written : Octets) :
    Session Redirected := do
  let d := (← get).dialect
  let openAs (path : Octets) : Session Redirected := do
    match ← Session.openPath opening path with
    | .ok i => pure (.ok (some i))
    | .error f => pure (.error (f.message d opening path))
  match d with
  | .standard => openAs (← expandText e target)
  | .extended =>
    match ← expandFields e target with
    | [path] => openAs path
    | _ => pure (.error (written ++ ": ambiguous redirect".toList))

def descriptorNumber? (text : Octets) : Option Nat :=
  if text.isEmpty || !text.all Char.isDigit || text.length > 5 then none
  else some (text.foldl (fun n c => 10 * n + (c.toNat - 48)) 0)

def redirectToDescriptor (reads : Bool) (quoted : Bool) (target : Octets) (toFile : Session Redirected) :
    Session Redirected := do
  let m ← get
  let follow (n : Nat) : Session Redirected :=
    match m.descriptors.lookup n with
    | some i => pure (.ok (some i))
    | none => pure (.error (target ++ ": Bad file descriptor".toList))
  if target == ['-'] then pure (.ok none)
  else match m.dialect, descriptorNumber? target with
    | .standard, some n =>
      if target.length = 1 then follow n else Session.abort "Syntax error: Bad fd number".toList
    | .standard, none => Session.abort "Syntax error: Bad fd number".toList
    | .extended, some n => follow n
    | .extended, none =>
      if quoted && target.isEmpty then pure (.error "\"\": Bad file descriptor".toList)
      else if reads then pure (.error (target ++ ": ambiguous redirect".toList))
      else toFile

/-- Carries out one redirection; gives a message if it fails. -/
def redirectOne (e : Engine) : Redirection → Session (Option Octets)
  | .mk descriptor holder kind target written => do
    let mut both := false
    let mut moved : Option Nat := none
    let result ← match kind with
      | .read => redirectToFile e .read target written
      | .write forced => redirectToFile e (.write forced) target written
      | .append => redirectToFile e .append target written
      | .both => redirectToFile e .both target written
      | .all append => do
        both := true
        redirectToFile e (if append then .append else .write false) target written
      | .here n => do
        let content := ((← get).heres[n]?.map HereText.content).getD []
        return ← finish descriptor holder kind false none
          (.ok (some (← Session.openText (← expandLines e content))))
      | .hereWord => do
        pure (.ok (some (← Session.openText ((← expandText e target) ++ ['\n']))))
      | .duplicate reads => do
        let text ← expandText e target
        let moves := !(← get).isStandard && text.length > 1 && text.getLast? == some '-'
        let text := if moves then text.dropLast else text
        if moves then moved := descriptorNumber? text
        let named := descriptor.isNone && !reads && !(← get).isStandard && text != ['-'] &&
          (descriptorNumber? text).isNone
        if named then both := true
        redirectToDescriptor reads (Word.hasQuotes target) text
          (if named then redirectToFile e (.write false) target written
            else pure (.error (text ++ ": ambiguous redirect".toList)))
    finish descriptor holder kind both moved result
where
  finish (descriptor : Option Nat) (holder : Option Octets) (kind : RedirectKind) (both : Bool)
      (moved : Option Nat) (result : Redirected) : Session (Option Octets) := do
    match result with
    | .error text => pure (some text)
    | .ok file => do
      match holder, file with
      | some name, some _ => do
        let n := (← get).freeDescriptor
        Session.assign name (Octets.ofNat n)
        Session.setDescriptor n file
      | some name, none =>
        if let some n := descriptorNumber? (((← get).bindings.text? name).getD []) then
          Session.setDescriptor n none
      | none, _ => do
        Session.setDescriptor (descriptor.getD kind.descriptor) file
        if both then Session.setDescriptor 2 file
      if let some n := moved then Session.setDescriptor n none
      pure none

/-- Carries out redirections in order, and says whether all of them came about. -/
def redirect (e : Engine) : List Redirection → Session Bool
  | [] => pure true
  | r :: rest => do
    match ← redirectOne e r with
    | some text => do
      Session.complain text
      pure false
    | none => redirect e rest

end MediaPipeline.Shell
