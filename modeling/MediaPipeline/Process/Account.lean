import MediaPipeline.Text.Octets

/-!
The accounts of a system: users with their home directories, and groups. Each list has a file with
one line for each account, in which colons separate the parts.
-/

namespace MediaPipeline

/-- A user as the system knows it. -/
structure Account where
  name : String
  user : Nat
  group : Nat
  description : String
  home : String
  /-- What runs when the user enters. -/
  entrance : String := "/usr/sbin/nologin"

namespace Account

def all : List Account := [
  ⟨"root", 0, 0, "root", "/root", "/bin/bash"⟩,
  { name := "daemon", user := 1, group := 1, description := "daemon", home := "/usr/sbin" },
  { name := "bin", user := 2, group := 2, description := "bin", home := "/bin" },
  { name := "sys", user := 3, group := 3, description := "sys", home := "/dev" },
  ⟨"sync", 4, 65534, "sync", "/bin", "/bin/sync"⟩,
  { name := "games", user := 5, group := 60, description := "games", home := "/usr/games" },
  { name := "man", user := 6, group := 12, description := "man", home := "/var/cache/man" },
  { name := "lp", user := 7, group := 7, description := "lp", home := "/var/spool/lpd" },
  { name := "mail", user := 8, group := 8, description := "mail", home := "/var/mail" },
  { name := "news", user := 9, group := 9, description := "news", home := "/var/spool/news" },
  { name := "uucp", user := 10, group := 10, description := "uucp", home := "/var/spool/uucp" },
  { name := "proxy", user := 13, group := 13, description := "proxy", home := "/bin" },
  { name := "www-data", user := 33, group := 33, description := "www-data", home := "/var/www" },
  { name := "backup", user := 34, group := 34, description := "backup", home := "/var/backups" },
  { name := "list", user := 38, group := 38, description := "Mailing List Manager"
    home := "/var/list" },
  { name := "irc", user := 39, group := 39, description := "ircd", home := "/run/ircd" },
  { name := "_apt", user := 42, group := 65534, description := "", home := "/nonexistent" },
  { name := "nobody", user := 65534, group := 65534, description := "nobody"
    home := "/nonexistent" }]

def groups : List (String × Nat) := [
  ("root", 0), ("daemon", 1), ("bin", 2), ("sys", 3), ("adm", 4), ("tty", 5), ("disk", 6),
  ("lp", 7), ("mail", 8), ("news", 9), ("uucp", 10), ("man", 12), ("proxy", 13), ("kmem", 15),
  ("dialout", 20), ("fax", 21), ("voice", 22), ("cdrom", 24), ("floppy", 25), ("tape", 26),
  ("sudo", 27), ("audio", 29), ("dip", 30), ("www-data", 33), ("backup", 34), ("operator", 37),
  ("list", 38), ("irc", 39), ("src", 40), ("shadow", 42), ("utmp", 43), ("video", 44),
  ("sasl", 45), ("plugdev", 46), ("staff", 50), ("games", 60), ("users", 100),
  ("nogroup", 65534)]

def line (a : Account) : String :=
  ":".intercalate
    [a.name, "x", toString a.user, toString a.group, a.description, a.home, a.entrance] ++ "\n"

def usersText : Octets :=
  (all.flatMap fun a => a.line.toList)

def groupsText : Octets :=
  groups.flatMap fun (name, number) => (name ++ ":x:" ++ toString number ++ ":\n").toList

def homeOf? (name : Octets) : Option Octets :=
  (all.find? fun a => a.name.toList == name).map fun a => a.home.toList

end Account

end MediaPipeline
