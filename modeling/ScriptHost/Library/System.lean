import ScriptHost.Library.System.Names
import ScriptHost.Text.Split
import ScriptHost.Text.Utf8

/-!
# Libraries of the system

What is known of the libraries that come with the system: which versions of names they have
(`System.versions?`), and which names those define that every program has in memory
(`System.defines`).

These are data of one installation, as the symbol tables of its C library, linker and compiler
support list them. Only the dynamic backend reads them.
-/

namespace ScriptHost.Library.System

/-- The words of the lines, which have blanks between them. -/
def words (lines : List String) : List (List UInt8) :=
  lines.flatMap fun line => Text.split 0x20 (Utf8.encode line)

/-! ## 1. Versions -/

/-- The versions that each library has, with blanks between them. -/
def versionLines : List (String × List String) :=
  [("ld-linux-x86-64.so.2",
    ["GLIBC_2.2.5 GLIBC_2.3 GLIBC_2.4 GLIBC_2.34 GLIBC_2.35 GLIBC_PRIVATE"]),
   ("libc.so.6",
    ["GLIBC_2.2.5 GLIBC_2.2.6 GLIBC_2.3 GLIBC_2.3.2 GLIBC_2.3.3 GLIBC_2.3.4 GLIBC_2.4 GLIBC_2.5",
     "GLIBC_2.6 GLIBC_2.7 GLIBC_2.8 GLIBC_2.9 GLIBC_2.10 GLIBC_2.11 GLIBC_2.12 GLIBC_2.13",
     "GLIBC_2.14 GLIBC_2.15 GLIBC_2.16 GLIBC_2.17 GLIBC_2.18 GLIBC_2.22 GLIBC_2.23 GLIBC_2.24",
     "GLIBC_2.25 GLIBC_2.26 GLIBC_2.27 GLIBC_2.28 GLIBC_2.29 GLIBC_2.30 GLIBC_2.31 GLIBC_2.32",
     "GLIBC_2.33 GLIBC_2.34 GLIBC_2.35 GLIBC_2.36 GLIBC_2.38 GLIBC_2.39 GLIBC_ABI_DT_RELR",
     "GLIBC_PRIVATE"]),
   ("libdl.so.2", ["GLIBC_2.2.5 GLIBC_2.3.3 GLIBC_2.3.4"]),
   ("libgcc_s.so.1",
    ["GCC_3.0 GCC_3.3 GCC_3.3.1 GCC_3.4 GCC_3.4.2 GCC_3.4.4 GCC_4.0.0 GCC_4.2.0 GCC_4.3.0",
     "GCC_4.7.0 GCC_4.8.0 GCC_7.0.0 GCC_12.0.0 GCC_13.0.0 GCC_14.0.0"]),
   ("libm.so.6",
    ["GLIBC_2.2.5 GLIBC_2.4 GLIBC_2.15 GLIBC_2.18 GLIBC_2.23 GLIBC_2.24 GLIBC_2.25 GLIBC_2.26",
     "GLIBC_2.27 GLIBC_2.28 GLIBC_2.29 GLIBC_2.31 GLIBC_2.32 GLIBC_2.35 GLIBC_2.38 GLIBC_2.39"]),
   ("libpthread.so.0",
    ["GLIBC_2.2.5 GLIBC_2.2.6 GLIBC_2.3.2 GLIBC_2.3.3 GLIBC_2.3.4 GLIBC_2.4 GLIBC_2.11",
     "GLIBC_2.12 GLIBC_2.18 GLIBC_2.28 GLIBC_2.30 GLIBC_2.31"]),
   ("libresolv.so.2", ["GLIBC_2.2.5 GLIBC_2.3.2 GLIBC_2.9 GLIBC_PRIVATE"]),
   ("librt.so.1", ["GLIBC_2.2.5 GLIBC_2.3.3 GLIBC_2.3.4 GLIBC_2.4 GLIBC_2.7"]),
   ("libutil.so.1", ["GLIBC_2.2.5"])]

/-- The versions that the library has; its own name is one. Nothing is known of other libraries. -/
def versions? (library : List UInt8) : Option (List (List UInt8)) :=
  (versionLines.find? (Utf8.encode ·.1 == library)).map fun e => library :: words e.2

/-! ## 2. Names -/

/-- The names of each version. -/
def names : List (List UInt8 × List (List UInt8)) :=
  nameLines.map fun e => (Utf8.encode e.1, words e.2)

/-- The names that are found only together with their version. -/
def retired : List (List UInt8) := retiredNames.map Utf8.encode

/-- Whether the name is defined, of the version if there is one. -/
def defines (name : List UInt8) : Option (List UInt8) → Bool
  | some version => names.any fun e => e.1 == version && e.2.contains name
  | none => names.any (·.2.contains name) && !retired.contains name

end ScriptHost.Library.System
