/-
This file models the default tables of the command risk guard.
-/

import Adjudicate.Js.Pattern
import Adjudicate.Primitives.RewriteGuards

namespace Adjudicate.Primitives

open Js Pattern

/-- This is ``(^|[\s;&|/$(){}`])``. -/
def commandStart : Pattern :=
  .alt .start (.single fun unit => isWhiteSpace unit || (utf16 ";&|/$()\x7b\x7d`").contains unit)

/-- This is `[^\n]*`. -/
def sameLine : Pattern := .many (· ≠ 0x0A)

def isRm (command : JsString) : Bool :=
  (sequence [commandStart, spaces, anyCase "rm", spaceOrStop]).test command

/-- The target is the root of the file system or the whole home directory. -/
def catastrophicRmTarget : Pattern :=
  sequence [.alt .start space,
    oneOf (sequence [literal "/", optional (literal "*")])
      [sequence [literal "~", optional (literal "/"), optional (literal "*")],
        sequence [literal "$", optional (literal "\x7b"), anyCase "HOME", optional (literal "\x7d")]],
    spaceOrStop]

def forkBomb : Pattern :=
  sequence [literal ":()", spaces, literal "\x7b", spaces, literal ":|:&", spaces, literal "\x7d",
    spaces, literal ";:"]

def ddToDevice : Pattern :=
  sequence [.wordBoundary, anyCase "dd", .wordBoundary, sameLine, anyCase "of=/dev/"]

def mkfs : Pattern :=
  sequence [.wordBoundary, anyCase "mkfs",
    optional (sequence [literal ".", .single isWordUnit, .many isWordUnit]), .wordBoundary]

def shred : Pattern := sequence [commandStart, anyCase "shred", spaceOrStop]

def writeBlockDevice : Pattern :=
  sequence [.alt (sequence [.wordBoundary, anyCase "of", spaces, literal "=", spaces])
      (sequence [literal ">", spaces]),
    anyCase "/dev/",
    oneOf (anyCase "sd") [anyCase "nvme", anyCase "hd", anyCase "vd", anyCase "disk",
      anyCase "mmcblk"]]

def diskPartitionTool : Pattern :=
  sequence [commandStart,
    oneOf (anyCase "wipefs") [anyCase "sgdisk", anyCase "parted", anyCase "fdisk", anyCase "cfdisk",
      anyCase "sfdisk", anyCase "mkswap"],
    spaceOrStop]

def chmod : Pattern := sequence [commandStart, anyCase "chmod", .wordBoundary]

def notSpaces : Pattern := .many fun unit => !isWhiteSpace unit

def chmodMode : Pattern :=
  .alt
    (sequence [space, literal "-", notSpaces, .single fun unit => unit = 0x52 || unit = 0x72,
      .wordBoundary])
    (sequence [space, optional (literal "0"), literal "777", .wordBoundary])

def recursiveFlag : Pattern := sequence [literal "-", notSpaces, anyCase "r"]

def curlPipeShell : Pattern :=
  sequence [.wordBoundary, .alt (literal "curl") (literal "wget"), .wordBoundary, sameLine,
    literal "|", spaces, oneOf (literal "sh") [literal "bash", literal "zsh"], .wordBoundary]

def outboundFetch : Pattern :=
  sequence [.wordBoundary,
    oneOf (literal "curl") [literal "wget", literal "nc", literal "netcat"], .wordBoundary]

def credentialsFile : Pattern :=
  oneOf (literal ".aws/credentials")
    [literal ".ssh/id_", literal ".netrc", sequence [literal "/.env", .wordBoundary],
      sequence [.alt .start (literal "/"), literal ".env", spaceOrStop]]

/-- This is `[A-Z_]*`. -/
def capitals : Pattern := .many fun unit => (0x41 ≤ unit && unit ≤ 0x5A) || unit = 0x5F

def secretEnv : Pattern :=
  sequence [literal "$", optional (literal "\x7b"), capitals,
    oneOf (literal "SECRET") [literal "TOKEN", literal "PASSWORD", literal "KEY"], capitals,
    optional (literal "\x7d")]

def defaultCommandRules : List CommandRule :=
  [{ category := .destructive, id := "rm_rf_root", severity := .refuse
     test := fun command => isRm command && catastrophicRmTarget.test command },
    { category := .destructive, id := "fork_bomb", severity := .refuse, test := forkBomb.test },
    { category := .destructive, id := "dd_to_device", severity := .refuse, test := ddToDevice.test },
    { category := .destructive, id := "mkfs", severity := .refuse, test := mkfs.test },
    { category := .destructive, id := "shred", severity := .refuse, test := shred.test },
    { category := .destructive, id := "write_block_device", severity := .refuse
      test := writeBlockDevice.test },
    { category := .destructive, id := "disk_partition_tool", severity := .refuse
      test := diskPartitionTool.test },
    { category := .destructive, id := "chmod_catastrophic", severity := .refuse
      test := fun command => chmod.test command && chmodMode.test command &&
        catastrophicRmTarget.test command },
    { category := .destructive, id := "rm_recursive", severity := .confirm
      test := fun command => isRm command && recursiveFlag.test command },
    { category := .network, id := "curl_pipe_shell", severity := .confirm
      test := curlPipeShell.test },
    { category := .network, id := "outbound_fetch", severity := .confirm
      test := outboundFetch.test },
    { category := .credential, id := "read_credentials_file", severity := .confirm
      test := credentialsFile.test },
    { category := .credential, id := "echo_secret_env", severity := .confirm
      test := secretEnv.test }]

def defaultFlagStripRules : List FlagStripRule :=
  [⟨"--no-preserve-root", isRm⟩, ⟨"-f", isRm⟩, ⟨"--force", isRm⟩]

example : (classifyCommand "/bin/RM -rf ~/*" defaultCommandRules).disposition = .refuse := by
  decide +kernel

example : (classifyCommand "rm -r ./cache" defaultCommandRules).matchedRuleIds =
    [utf16 "rm_recursive"] := by decide +kernel

end Adjudicate.Primitives
