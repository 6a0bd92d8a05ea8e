import MediaPipeline.Process.Account
import MediaPipeline.Program.Invocation

/-!
Programs that tell of users and groups. All programs run in the name of the first user.
-/

namespace MediaPipeline.Program.Accounts

open Shell.Quoting (plain)
open ProgramOption (flag)

def user? (text : Octets) : Option Account :=
  (Account.all.find? fun a => a.name.toList == text).or
    (Account.all.find? fun a => Octets.ofNat a.user == text)

def groupName (number : Nat) : Octets :=
  match Account.groups.find? fun g => g.2 == number with
  | some g => g.1.toList
  | none => Octets.ofNat number

/-- The user in whose name everything runs. -/
def own : Account :=
  (Account.all.head?).getD ⟨"root", 0, 0, "root", "/root", "/bin/bash"⟩

def described (a : Account) : Octets :=
  let group := Octets.ofNat a.group ++ '(' :: groupName a.group ++ [')']
  "uid=".toList ++ Octets.ofNat a.user ++ '(' :: a.name.toList ++ ") gid=".toList ++ group ++
    " groups=".toList ++ group

def id (i : Invocation) : Outcome :=
  let known := [⟨some 'a', none, .none⟩, flag 'g' "group", flag 'G' "groups", flag 'n' "name",
    flag 'r' "real", flag 'u' "user", flag 'z' "zero", flag 'Z' "context"]
  i.withOptions known 1 fun a =>
    let kinds := (["u", "g", "G"].filter a.has).length
    if a.has "Z" then
      i.fail 1 "--context (-Z) works only on an SELinux-enabled kernel".toList
    else if 1 < kinds then
      i.fail 1 "cannot print \"only\" of more than one choice".toList
    else if kinds = 0 && (a.has "n" || a.has "r") then
      i.fail 1 "cannot print only names or real IDs in default format".toList
    else if kinds = 0 && a.has "z" then
      i.fail 1 "option --zero not permitted in default format".toList
    else
      let ending := if a.has "z" then ['\x00'] else ['\n']
      let shown (u : Account) : Octets :=
        if kinds = 0 then described u
        else if a.has "u" then (if a.has "n" then u.name.toList else Octets.ofNat u.user)
        else if a.has "n" then groupName u.group
        else Octets.ofNat u.group
      if a.operands.isEmpty then { out := shown own ++ ending }
      else a.operands.foldl (fun (o : Outcome) text =>
        match user? text with
        | some u => { o with out := o.out ++ shown u ++ ending }
        | none =>
          { o with err := o.err ++ i.complaint (plain text ++ ": no such user".toList), status := 1 }) {}

def groups (i : Invocation) : Outcome :=
  i.withOptions [] 1 fun a =>
    if a.operands.isEmpty then { out := groupName own.group ++ ['\n'] }
    else a.operands.foldl (fun (o : Outcome) text =>
      match user? text with
      | some u => { o with out := o.out ++ text ++ " : ".toList ++ groupName u.group ++ ['\n'] }
      | none =>
        { o with err := o.err ++ i.complaint (plain text ++ ": no such user".toList), status := 1 }) {}

def whoami (i : Invocation) : Outcome :=
  i.withOptions [] 1 fun a =>
    match a.operands with
    | [] => { out := own.name.toList ++ ['\n'] }
    | extra :: _ => i.extraOperand 1 extra

/-- Tells who has entered the system; nobody has. -/
def logname (i : Invocation) : Outcome :=
  i.withOptions [] 1 fun a =>
    match a.operands with
    | [] => i.fail 1 "no login name".toList
    | extra :: _ => i.extraOperand 1 extra

def users (i : Invocation) : Outcome :=
  i.withOptions [] 1 fun _ => {}

/-- Looks up the lines of users and groups. -/
def getent (i : Invocation) : Outcome :=
  let bare (kind : String) : Outcome :=
    { err := i.name ++ kind.toList ++
        "Try \x60getent --help' or \x60getent --usage' for more information.\n".toList
      status := 1 }
  match i.arguments with
  | [] => bare ": wrong number of arguments\n"
  | database :: keys =>
    let found (all : List (Octets × List Octets)) : Outcome :=
      if keys.isEmpty then { out := all.flatMap fun l => l.1 }
      else
        let lines := keys.map fun k => (all.find? fun l => l.2.contains k).map Prod.fst
        { out := (lines.filterMap fun l => l).flatten
          status := if lines.all Option.isSome then 0 else 2 }
    match String.ofList database with
    | "passwd" => found (Account.all.map fun a =>
        (a.line.toList, [a.name.toList, Octets.ofNat a.user]))
    | "group" => found (Account.groups.map fun (name, number) =>
        ((name ++ ":x:" ++ toString number ++ ":\n").toList, [name.toList, Octets.ofNat number]))
    | _ => bare (": Unknown database: " ++ String.ofList database ++ "\n")

def programs : List (String × Program) := [
  ("id", id), ("groups", groups), ("whoami", whoami), ("logname", logname), ("users", users),
  ("getent", getent)]

end MediaPipeline.Program.Accounts
