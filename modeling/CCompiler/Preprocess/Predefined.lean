import CCompiler.Macro.Expand
import Std.Data.HashSet

/-!
# Options and predefined macros

What a caller may choose: the dialect, the directories of headers, the macros and the form of messages.

The macros that are defined before a source is read: those of the language and the target, the dialect,
the machine and the time.
-/
namespace CCompiler

inductive MessageFormat where
  | human
  | json
deriving Repr, DecidableEq, Inhabited

def MessageFormat.name : MessageFormat → String
  | .human => "human"
  | .json => "json"

def MessageFormat.ofName? (name : String) : Option MessageFormat :=
  [MessageFormat.human, .json].find? (·.name == name)

structure Options where
  standard : Standard := .c11
  isHosted : Bool := true
  includeDirs : List String := []
  quoteDirs : List String := []
  systemDirs : List String := []
  afterDirs : List String := []
  forcedIncludes : List String := []
  macroIncludes : List String := []
  defines : List String := []
  undefs : List String := []
  noStandardIncludes : Bool := false
  messageFormat : MessageFormat := .human
  warningsAreErrors : Bool := false
deriving Repr, DecidableEq, Inhabited

inductive Options.Fault where
  | standard (name : String)
  | messageFormat (name : String)
deriving Repr, DecidableEq

def Options.Fault.message : Options.Fault → String
  | .standard name => s!"Unsupported language standard: {name}"
  | .messageFormat name => s!"Unsupported diagnostic format: {name}"

def Options.named (standard format : String) : Except Options.Fault (Standard × MessageFormat) :=
  match Standard.ofName? standard, MessageFormat.ofName? format with
  | none, _ => .error (.standard standard)
  | some _, none => .error (.messageFormat format)
  | some standard, some format => .ok (standard, format)

end CCompiler

namespace CCompiler.Preprocess

def languageDefinitions : List String :=
  ["__STDC__=1", "__STDC_VERSION__=201112L", "__STDC_IEC_559__=1", "__STDC_MB_MIGHT_NEQ_WC__=1",
   "__STDC_UTF_16__=1", "__STDC_UTF_32__=1", "__STDC_NO_ATOMICS__=1", "__STDC_NO_COMPLEX__=1",
   "__STDC_NO_THREADS__=1", "__STDC_NO_VLA__=1", "__ATOMIC_RELAXED=0", "__ATOMIC_CONSUME=1",
   "__ATOMIC_ACQUIRE=2", "__ATOMIC_RELEASE=3", "__ATOMIC_ACQ_REL=4", "__ATOMIC_SEQ_CST=5",
   "__GCC_ATOMIC_BOOL_LOCK_FREE=2", "__GCC_ATOMIC_CHAR_LOCK_FREE=2",
   "__GCC_ATOMIC_SHORT_LOCK_FREE=2", "__GCC_ATOMIC_INT_LOCK_FREE=2",
   "__GCC_ATOMIC_LONG_LOCK_FREE=2", "__GCC_ATOMIC_LLONG_LOCK_FREE=2",
   "__GCC_ATOMIC_POINTER_LOCK_FREE=2", "__GCC_ATOMIC_CHAR16_T_LOCK_FREE=2",
   "__GCC_ATOMIC_CHAR32_T_LOCK_FREE=2", "__GCC_ATOMIC_WCHAR_T_LOCK_FREE=2",
   "__GCC_ATOMIC_TEST_AND_SET_TRUEVAL=1", "__GCC_HAVE_SYNC_COMPARE_AND_SWAP_1=1",
   "__GCC_HAVE_SYNC_COMPARE_AND_SWAP_2=1", "__GCC_HAVE_SYNC_COMPARE_AND_SWAP_4=1",
   "__GCC_HAVE_SYNC_COMPARE_AND_SWAP_8=1", "__GCC_HAVE_SYNC_COMPARE_AND_SWAP_16=1",
   "__INT_WIDTH__=32", "__LONG_WIDTH__=64", "__LONG_LONG_WIDTH__=64", "__LLONG_WIDTH__=64",
   "__INTMAX_WIDTH__=64", "__UINTMAX_WIDTH__=64", "__SIZE_WIDTH__=64", "__PTRDIFF_WIDTH__=64",
   "__INTPTR_WIDTH__=64", "__UINTPTR_WIDTH__=64", "__POINTER_WIDTH__=64", "__BOOL_WIDTH__=8",
   "__SCHAR_MAX__=127", "__SCHAR_MIN__=-128", "__SHRT_MAX__=32767", "__SHRT_MIN__=-32768",
   "__INT_MAX__=2147483647", "__INT_MIN__=-2147483648", "__LONG_MAX__=9223372036854775807L",
   "__LONG_MIN__=-9223372036854775808L", "__INTMAX_MAX__=9223372036854775807L",
   "__INTMAX_MIN__=-9223372036854775808L", "__INT8_C(value)=value", "__INT16_C(value)=value",
   "__INT32_C(value)=value", "__INT64_C(value)=value##L", "__INTMAX_C(value)=value##L",
   "__UCHAR_MAX__=255", "__USHRT_MAX__=65535", "__UINT_MAX__=4294967295U",
   "__ULONG_MAX__=18446744073709551615UL", "__SIZE_MAX__=18446744073709551615UL",
   "__PTRDIFF_MAX__=9223372036854775807L", "__PTRDIFF_MIN__=-9223372036854775808L",
   "__INTPTR_MAX__=9223372036854775807L", "__INTPTR_MIN__=-9223372036854775808L",
   "__UINTPTR_MAX__=18446744073709551615UL", "__LONG_LONG_MAX__=9223372036854775807LL",
   "__LONG_LONG_MIN__=-9223372036854775808LL", "__LLONG_MAX__=9223372036854775807LL",
   "__LLONG_MIN__=-9223372036854775808LL", "__ULLONG_MAX__=18446744073709551615ULL",
   "__UINT8_C(value)=value", "__UINT16_C(value)=value", "__UINT32_C(value)=value##U",
   "__UINT64_C(value)=value##UL", "__UINTMAX_MAX__=18446744073709551615UL",
   "__UINTMAX_C(value)=value##UL", "__LP64__=1", "__LP64=1", "_LP64=1", "__CHAR_BIT__=8",
   "__SIZEOF_BOOL__=1", "__SIZEOF_SHORT__=2", "__SIZEOF_INT__=4", "__SIZEOF_FLOAT__=4",
   "__SIZEOF_DOUBLE__=8", "__SIZEOF_LONG_DOUBLE__=16", "__FLT_RADIX__=2", "__FLT_MANT_DIG__=24",
   "__DBL_MANT_DIG__=53", "__LDBL_MANT_DIG__=113", "__FLT_DIG__=6", "__DBL_DIG__=15",
   "__LDBL_DIG__=33", "__FLT_DECIMAL_DIG__=9", "__DBL_DECIMAL_DIG__=17",
   "__LDBL_DECIMAL_DIG__=36", "__DECIMAL_DIG__=36", "__FLT_EPSILON__=1.19209290e-7F",
   "__DBL_EPSILON__=2.2204460492503131e-16", "__LDBL_EPSILON__=1.08420217248550443401e-19L",
   "__FLT_MIN__=1.17549435e-38F", "__DBL_MIN__=2.2250738585072014e-308",
   "__LDBL_MIN__=3.36210314311209350626e-4932L", "__FLT_DENORM_MIN__=1.40129846e-45F",
   "__DBL_DENORM_MIN__=4.9406564584124654e-324",
   "__LDBL_DENORM_MIN__=3.64519953188247460253e-4951L", "__FLT_MAX__=3.40282347e+38F",
   "__DBL_MAX__=1.7976931348623157e+308", "__LDBL_MAX__=1.18973149535723176502e+4932L",
   "__FLT_MIN_EXP__=-125", "__DBL_MIN_EXP__=-1021", "__LDBL_MIN_EXP__=-16381",
   "__FLT_MIN_10_EXP__=-37", "__DBL_MIN_10_EXP__=-307", "__LDBL_MIN_10_EXP__=-4931",
   "__FLT_MAX_EXP__=128", "__DBL_MAX_EXP__=1024", "__LDBL_MAX_EXP__=16384",
   "__FLT_MAX_10_EXP__=38", "__DBL_MAX_10_EXP__=308", "__LDBL_MAX_10_EXP__=4932",
   "__FLT_HAS_DENORM__=1", "__DBL_HAS_DENORM__=1", "__LDBL_HAS_DENORM__=1",
   "__FLT_HAS_INFINITY__=1", "__DBL_HAS_INFINITY__=1", "__LDBL_HAS_INFINITY__=1",
   "__FLT_HAS_QUIET_NAN__=1", "__DBL_HAS_QUIET_NAN__=1", "__LDBL_HAS_QUIET_NAN__=1",
   "__SIZEOF_POINTER__=8", "__SIZEOF_LONG__=8", "__SIZEOF_LONG_LONG__=8", "__SIZEOF_SIZE_T__=8",
   "__SIZEOF_PTRDIFF_T__=8", "__SIZEOF_INTMAX_T__=8", "__SIZEOF_UINTMAX_T__=8",
   "__SIZEOF_WCHAR_T__=4", "__SIZEOF_WINT_T__=4", "__SIZEOF_CHAR16_T__=2",
   "__SIZEOF_CHAR32_T__=4", "__ORDER_LITTLE_ENDIAN__=1234", "__ORDER_BIG_ENDIAN__=4321",
   "__BYTE_ORDER__=__ORDER_LITTLE_ENDIAN__", "__LITTLE_ENDIAN__=__ORDER_LITTLE_ENDIAN__",
   "__BIG_ENDIAN__=__ORDER_BIG_ENDIAN__", "__FLOAT_WORD_ORDER__=__ORDER_LITTLE_ENDIAN__",
   "__SIZE_TYPE__=unsigned long", "__PTRDIFF_TYPE__=long", "__INTPTR_TYPE__=long",
   "__UINTPTR_TYPE__=unsigned long", "__INTMAX_TYPE__=long", "__UINTMAX_TYPE__=unsigned long",
   "__CHAR16_TYPE__=unsigned short", "__CHAR32_TYPE__=unsigned int", "__INT8_TYPE__=signed char",
   "__INT16_TYPE__=short", "__INT32_TYPE__=int", "__INT64_TYPE__=long",
   "__UINT8_TYPE__=unsigned char", "__UINT16_TYPE__=unsigned short",
   "__UINT32_TYPE__=unsigned int", "__UINT64_TYPE__=unsigned long",
   "__INT_LEAST8_TYPE__=signed char", "__INT_LEAST16_TYPE__=short", "__INT_LEAST32_TYPE__=int",
   "__INT_LEAST64_TYPE__=long", "__UINT_LEAST8_TYPE__=unsigned char",
   "__UINT_LEAST16_TYPE__=unsigned short", "__UINT_LEAST32_TYPE__=unsigned int",
   "__UINT_LEAST64_TYPE__=unsigned long", "__INT_FAST8_TYPE__=signed char",
   "__INT_FAST16_TYPE__=short", "__INT_FAST32_TYPE__=int", "__INT_FAST64_TYPE__=long",
   "__UINT_FAST8_TYPE__=unsigned char", "__UINT_FAST16_TYPE__=unsigned short",
   "__UINT_FAST32_TYPE__=unsigned int", "__UINT_FAST64_TYPE__=unsigned long",
   "__WCHAR_TYPE__=int", "__WINT_TYPE__=unsigned int", "__WCHAR_WIDTH__=32", "__WINT_WIDTH__=32",
   "__CHAR16_WIDTH__=16", "__CHAR32_WIDTH__=32", "__WCHAR_MAX__=2147483647",
   "__WCHAR_MIN__=-2147483648", "__WINT_MAX__=4294967295U", "__WINT_MIN__=0U",
   "__SIG_ATOMIC_TYPE__=int", "__SIG_ATOMIC_WIDTH__=32", "__SIG_ATOMIC_MAX__=2147483647",
   "__SIG_ATOMIC_MIN__=-2147483648", "__STDC_ISO_10646__=201706L", "__FILE__=0",
   "__FILE_NAME__=0", "__BASE_FILE__=0", "__LINE__=0", "__INCLUDE_LEVEL__=0", "__COUNTER__=0"]

def hostedDefinition (isHosted : Bool) : String :=
  if isHosted then "__STDC_HOSTED__=1" else "__STDC_HOSTED__=0"

def strictDefinitions : List String := ["__STRICT_ANSI__=1"]

def gnuDefinitions : List String :=
  ["__GNUC__=4", "__GNUC_MINOR__=2", "__GNUC_PATCHLEVEL__=1", "__GNUC_STDC_INLINE__=1",
   "__VERSION__=\"xcc gnu11\""]

def dialectDefinitions : Standard → List String
  | .c11 => strictDefinitions
  | .gnu11 => gnuDefinitions

def machineDefinitions : List (String × String) :=
  [("aarch64", "__arm64__=1"), ("arm64", "__arm64__=1"), ("amd64", "__x86_64__=1"),
   ("x86_64", "__x86_64__=1"), ("i386", "__i386__=1"), ("i686", "__i386__=1"), ("arm", "__arm__=1"),
   ("armv7l", "__arm__=1")]

def momentNames : List String := ["__DATE__", "__TIME__", "__TIMESTAMP__"]

def definitions (standard : Standard) (isHosted : Bool) (machine : String) : List String :=
  languageDefinitions ++ hostedDefinition isHosted :: dialectDefinitions standard
    ++ (machineDefinitions.lookup machine).toList

def momentMacros (now : Moment) : List Macro :=
  [("__DATE__", now.date), ("__TIME__", now.time), ("__TIMESTAMP__", now.timestamp)].map
    fun (name, text) =>
      { name, replacement := [⟨.stringLiteral, MacroToken.quote text⟩] }

def predefinedNames : List String :=
  (languageDefinitions ++ strictDefinitions ++ gnuDefinitions ++ machineDefinitions.map (·.2)).map
    Macro.optionName ++ momentNames ++ ["__STDC_HOSTED__"]

def predefinedSet : Std.HashSet String := .ofList predefinedNames

def isPredefined (name : String) : Bool := predefinedSet.contains name

end CCompiler.Preprocess
