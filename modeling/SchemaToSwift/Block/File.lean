/-!
# Blocks of a file

The banner at the top of a generated file and the declaration that makes the compiler check the
version of the runtime library.
-/

namespace SchemaToSwift

/-- The banner of a generated file. -/
structure BannerBlock where
  source : String
  mode : String
  documentation : String
deriving Repr, DecidableEq

/-- The text of the banner. -/
def BannerBlock.text (b : BannerBlock) : String :=
  "\n".intercalate [
    "// DO NOT EDIT.",
    "// swift-format-ignore-file",
    "// swiftlint:disable all",
    "//",
    "// Generated by the Swift generator plugin for the protocol buffer compiler.",
    "// Source: " ++ b.source,
    "// Generation mode: " ++ b.mode,
    "//",
    "// For information on using the generated types, please see the documentation:",
    "//   " ++ b.documentation]

/-- The check of the runtime library's version. -/
structure VersionBlock where
  runtimePrefix : String
  runtimeModule : String
  version : String
deriving Repr, DecidableEq

/-- The text of the check. -/
def VersionBlock.text (b : VersionBlock) : String :=
  "\n".intercalate [
    "// If the compiler emits an error on this type, it is because this file",
    "// was generated by a version of the `protoc` Swift plug-in that is",
    "// incompatible with the version of " ++ b.runtimeModule ++ " to which you are linking.",
    "// Please ensure that you are building against the same version of the API",
    "// that was used to generate this file.",
    "fileprivate struct _GeneratedWithProtocGenSwiftVersion: " ++ b.runtimePrefix ++
      "ProtobufAPIVersionCheck \x7b",
    "  struct _" ++ b.version ++ ": " ++ b.runtimePrefix ++ "ProtobufAPIVersion_" ++ b.version ++
      " \x7b\x7d",
    "  typealias Version = _" ++ b.version,
    "\x7d"]

end SchemaToSwift
