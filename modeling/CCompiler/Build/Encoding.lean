import CCompiler.Build.Config
import CCompiler.Json.Basic

/-!
# Configurations as JSON
-/
namespace CCompiler

def Options.json (o : Options) : Json :=
  .object [("std", .string o.standard.name), ("hosted", .bool o.isHosted),
    ("include_dirs", .ofTexts o.includeDirs), ("quote_include_dirs", .ofTexts o.quoteDirs),
    ("system_include_dirs", .ofTexts o.systemDirs), ("after_include_dirs", .ofTexts o.afterDirs),
    ("forced_includes", .ofTexts o.forcedIncludes), ("macro_includes", .ofTexts o.macroIncludes),
    ("defines", .ofTexts o.defines), ("undefs", .ofTexts o.undefs),
    ("no_standard_includes", .bool o.noStandardIncludes), ("diag_format", .string o.messageFormat.name),
    ("warn_as_error", .bool o.warningsAreErrors)]

def BuildConfig.json (c : BuildConfig) : Json :=
  .object [("frontend_options", c.options.json), ("clang_argv", .ofTexts c.forwarded),
    ("c_inputs", .ofTexts c.cInputs), ("non_c_inputs", .ofTexts c.otherInputs),
    ("backend", .string c.backend.name), ("no_backend_fallback", .bool c.noFallback),
    ("action", .string c.action.name), ("output", .ofOption .string c.output),
    ("native_unsupported_flags", .ofTexts c.unknownFlags)]

end CCompiler
