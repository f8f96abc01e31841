import LateBinding.Method.Basic

/-! # The built-in method set

Classes and names with their methods, in the order of registration. -/

namespace LateBinding.Builtin

/-- The class that answers for all others. -/
def objectClass : String := "Object"

/-- The class of the object through which programs ask the operating system. -/
def systemClass : String := "Etc"

def objectMethods : List (String × ObjectMethod) :=
  [("inspect", .inspect), ("to_s", .toS), ("==", .equal), ("equal?", .equal), ("!=", .notEqual),
   ("nil?", .isNil), ("respond_to?", .respondTo)]

def integerMethods : List (String × IntegerMethod) :=
  [("to_s", .toS), ("inspect", .toS), ("to_i", .toI), ("to_int", .toI), ("succ", .succ),
   ("next", .succ), ("+", .plus), ("-", .minus), ("==", .equal), ("<=>", .compare)]

def floatMethods : List (String × FloatMethod) :=
  [("to_s", .toS), ("inspect", .toS), ("to_i", .toI), ("to_int", .toI), ("==", .equal)]

def stringMethods : List (String × StringMethod) :=
  [("upcase", .upcase), ("downcase", .downcase), ("swapcase", .swapcase),
   ("capitalize", .capitalize), ("succ", .succ), ("next", .succ), ("length", .length),
   ("size", .length), ("empty?", .isEmpty), ("[]", .ref), ("slice", .ref), ("=~", .search),
   ("start_with?", .startsWith), ("end_with?", .endsWith), ("to_s", .toS), ("to_str", .toS),
   ("to_sym", .toSym), ("intern", .toSym), ("==", .equal), ("<=>", .compare), ("+", .plus)]

def symbolMethods : List (String × SymbolMethod) :=
  [("to_s", .toS), ("id2name", .toS), ("name", .name), ("inspect", .inspect), ("to_sym", .toSym),
   ("to_proc", .toProc), ("length", .length), ("size", .length), ("<=>", .compare), ("==", .equal),
   ("casecmp", .caseless), ("casecmp?", .equalCaseless), ("succ", .succ), ("next", .succ),
   ("upcase", .upcase), ("downcase", .downcase), ("swapcase", .swapcase),
   ("capitalize", .capitalize), ("start_with?", .startsWith), ("end_with?", .endsWith),
   ("[]", .ref), ("slice", .ref), ("=~", .search)]

def arrayMethods : List (String × ArrayMethod) :=
  [("to_ary", .toAry), ("to_a", .toAry), ("size", .size), ("length", .size), ("[]", .ref),
   ("first", .first), ("last", .last), ("dup", .dup), ("push", .push), ("<<", .push),
   ("==", .equal)]

def hashMethods : List (String × HashMethod) :=
  [("[]", .ref), ("[]=", .set), ("key?", .hasKey), ("has_key?", .hasKey), ("include?", .hasKey),
   ("size", .size), ("length", .size), ("keys", .keys), ("values", .values), ("==", .equal)]

def procMethods : List (String × ProcMethod) :=
  [("call", .call), ("yield", .call), ("[]", .call), ("arity", .arity), ("lambda?", .isLambda),
   ("to_proc", .toProc)]

def matchMethods : List (String × MatchMethod) :=
  [("[]", .ref), ("to_s", .toS), ("pre_match", .pre), ("post_match", .post),
    ("captures", .captures),
   ("begin", .offset)]

def systemMethods : List (String × SystemMethod) :=
  [("getlogin", .login), ("getpwnam", .userNamed), ("getgrnam", .groupNamed),
    ("getpwuid", .userWithId),
   ("getgrgid", .groupWithId), ("sysconf", .limit), ("getpwent", .nextUser),
   ("setpwent", .rewindUsers), ("endpwent", .closeUsers), ("getgrent", .nextGroup),
   ("setgrent", .rewindGroups), ("endgrent", .closeGroups)]

def under {μ : Type} (cls : String) (wrap : μ → Builtin) (methods : List (String × μ)) :
    List (String × String × Builtin) :=
  methods.map fun (name, m) => (cls, name, wrap m)

def all : List (String × String × Builtin) :=
  under objectClass object objectMethods ++ under "Integer" integer integerMethods ++
  under "Float" float floatMethods ++ under "String" string stringMethods ++
  under "Symbol" symbol symbolMethods ++ under "Array" array arrayMethods ++
  under "Hash" hash hashMethods ++ under "Proc" proc procMethods ++
  under "MatchData" matched matchMethods ++ under systemClass system systemMethods

end LateBinding.Builtin
