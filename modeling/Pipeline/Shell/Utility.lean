import Pipeline.Shell.Utility.Arrange
import Pipeline.Shell.Utility.Awk
import Pipeline.Shell.Utility.Column
import Pipeline.Shell.Utility.Compare
import Pipeline.Shell.Utility.Content
import Pipeline.Shell.Utility.Copy
import Pipeline.Shell.Utility.Count
import Pipeline.Shell.Utility.Digest
import Pipeline.Shell.Utility.Dump
import Pipeline.Shell.Utility.Edit
import Pipeline.Shell.Utility.Encode
import Pipeline.Shell.Utility.Expression
import Pipeline.Shell.Utility.Find
import Pipeline.Shell.Utility.Launcher
import Pipeline.Shell.Utility.Listing
import Pipeline.Shell.Utility.Permission
import Pipeline.Shell.Utility.Portion
import Pipeline.Shell.Utility.Search
import Pipeline.Shell.Utility.Sequence
import Pipeline.Shell.Utility.Sort
import Pipeline.Shell.Utility.Surroundings
import Pipeline.Shell.Utility.Transliterate

/-!
# Utilities

The programs that a shell finds by name. Each takes its arguments, reads and changes files and
streams, and gives its exit status. Some run other programs.
-/

namespace Pipeline.Shell.Utility

/-- The utilities that run no other program, by their names. -/
def simple : List (String × (List String → Act Nat)) :=
  [("cat", cat), ("head", endOf "head" ['-'] fun _ => headOf),
    ("tail", endOf "tail" ['-', '+'] fun _ => tailOf), ("tac", tac), ("rev", rev), ("nl", nl),
    ("tee", tee), ("wc", wc), ("cksum", cksum), ("sum", sum),
    ("md5sum", digests "md5sum" Digest.md5), ("sha1sum", digests "sha1sum" Digest.sha1),
    ("sha224sum", digests "sha224sum" Digest.sha224.text),
    ("sha256sum", digests "sha256sum" Digest.sha256.text),
    ("sha384sum", digests "sha384sum" Digest.sha384.text),
    ("sha512sum", digests "sha512sum" Digest.sha512.text), ("base64", encodeBy "base64" .base64),
    ("base32", encodeBy "base32" .base32), ("basenc", basenc), ("od", od), ("tsort", tsort),
    ("shuf", shuf), ("dd", dd), ("strings", strings), ("sort", sort), ("uniq", uniq),
    ("comm", comm), ("cmp", cmp), ("diff", diff), ("join", join), ("cut", cut),
    ("paste", paste), ("fold", fold),
    ("expand", expand), ("unexpand", unexpand), ("tr", tr), ("expr", expr), ("grep", grep),
    ("egrep", egrep), ("fgrep", fgrep), ("basename", basename), ("dirname", dirname),
    ("realpath", realpath), ("readlink", readlink), ("seq", seq), ("factor", factor), ("rm", rm),
    ("rmdir", rmdir), ("unlink", unlink), ("mkdir", mkdir), ("touch", touch),
    ("truncate", truncate), ("mktemp", mktemp), ("cp", cp), ("mv", mv), ("ln", ln), ("link", link),
    ("install", install), ("chmod", chmod), ("chown", giveTo "chown" "user"),
    ("chgrp", giveTo "chgrp" "group"), ("ls", ls), ("dir", listFiles "dir" true), ("stat", stat),
    ("du", du), ("date", date), ("printenv", printenv), ("sleep", sleep), ("id", id),
    ("whoami", sayLine "whoami" "root"), ("groups", groups), ("logname", logname), ("tty", tty),
    ("arch", sayLine "arch" "x86_64"), ("nproc", sayLine "nproc" "4"),
    ("hostname", sayLine "hostname" "localhost"), ("uname", uname), ("pwd", pwd), ("yes", yes),
    ("true", fun _ => return 0), ("false", fun _ => return 1), ("sync", fun _ => return 0),
    ("echo", echo), ("printf", printf), ("test", test "test"), ("[", test "[")]

/-- The utilities that may run other programs, by their names. -/
def running : List (String × (System → List String → Act Nat)) :=
  [("env", env), ("timeout", timeout), ("nohup", nohup), ("stdbuf", stdbuf), ("setsid", setsid),
    ("nice", nice), ("xargs", xargs), ("which", which), ("find", find),
    ("sed", sed), ("split", split), ("awk", awk "awk"), ("mawk", awk "mawk"), ("nawk", awk "nawk")]

/-- The utilities by their names. -/
def table : List (String × (System → List String → Act Nat)) :=
  running ++ simple.map fun (name, utility) => (name, fun _ => utility)

/-- The utility of a name. -/
def find? (name : String) : Option (System → List String → Act Nat) :=
  table.lookup name

end Pipeline.Shell.Utility
