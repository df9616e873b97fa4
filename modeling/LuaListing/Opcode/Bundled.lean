/-!
# The bundled instruction sets

The `OpCode` enumerations of the `lopcodes.h` headers of Lua 5.0, 5.1, 5.2 and 5.3, from
the opening of the enumeration on: the entries with their comments, exactly as the headers
give them, one string per line.

## Main definitions

* `Bundled.lua50`, `Bundled.lua51`, `Bundled.lua52`, `Bundled.lua53` — the four texts.
-/

namespace LuaListing

namespace Bundled

/-- The opcode enumeration of Lua 5.0. -/
def lua50 : String := String.intercalate "\n" [
  "typedef enum \x7b",
  "/*----------------------------------------------------------------------",
  "name\t\targs\tdescription",
  "------------------------------------------------------------------------*/",
  "OP_MOVE,/*\tA B\tR(A) := R(B)\t\t\t\t\t*/",
  "OP_LOADK,/*\tA Bx\tR(A) := Kst(Bx)\t\t\t\t\t*/",
  "OP_LOADBOOL,/*\tA B C\tR(A) := (Bool)B; if (C) PC++\t\t\t*/",
  "OP_LOADNIL,/*\tA B\tR(A) := ... := R(B) := nil\t\t\t*/",
  "OP_GETUPVAL,/*\tA B\tR(A) := UpValue[B]\t\t\t\t*/",
  "",
  "OP_GETGLOBAL,/*\tA Bx\tR(A) := Gbl[Kst(Bx)]\t\t\t\t*/",
  "OP_GETTABLE,/*\tA B C\tR(A) := R(B)[RK(C)]\t\t\t\t*/",
  "",
  "OP_SETGLOBAL,/*\tA Bx\tGbl[Kst(Bx)] := R(A)\t\t\t\t*/",
  "OP_SETUPVAL,/*\tA B\tUpValue[B] := R(A)\t\t\t\t*/",
  "OP_SETTABLE,/*\tA B C\tR(A)[RK(B)] := RK(C)\t\t\t\t*/",
  "",
  "OP_NEWTABLE,/*\tA B C\tR(A) := \x7b\x7d (size = B,C)\t\t\t\t*/",
  "",
  "OP_SELF,/*\tA B C\tR(A+1) := R(B); R(A) := R(B)[RK(C)]\t\t*/",
  "",
  "OP_ADD,/*\tA B C\tR(A) := RK(B) + RK(C)\t\t\t\t*/",
  "OP_SUB,/*\tA B C\tR(A) := RK(B) - RK(C)\t\t\t\t*/",
  "OP_MUL,/*\tA B C\tR(A) := RK(B) * RK(C)\t\t\t\t*/",
  "OP_DIV,/*\tA B C\tR(A) := RK(B) / RK(C)\t\t\t\t*/",
  "OP_POW,/*\tA B C\tR(A) := RK(B) ^ RK(C)\t\t\t\t*/",
  "OP_UNM,/*\tA B\tR(A) := -R(B)\t\t\t\t\t*/",
  "OP_NOT,/*\tA B\tR(A) := not R(B)\t\t\t\t*/",
  "",
  "OP_CONCAT,/*\tA B C\tR(A) := R(B).. ... ..R(C)\t\t\t*/",
  "",
  "OP_JMP,/*\tsBx\tPC += sBx\t\t\t\t\t*/",
  "",
  "OP_EQ,/*\tA B C\tif ((RK(B) == RK(C)) ~= A) then pc++\t\t*/",
  "OP_LT,/*\tA B C\tif ((RK(B) <  RK(C)) ~= A) then pc++  \t\t*/",
  "OP_LE,/*\tA B C\tif ((RK(B) <= RK(C)) ~= A) then pc++  \t\t*/",
  "",
  "OP_TEST,/*\tA B C\tif (R(B) <=> C) then R(A) := R(B) else pc++\t*/",
  "",
  "OP_CALL,/*\tA B C\tR(A), ... ,R(A+C-2) := R(A)(R(A+1), ... ,R(A+B-1)) */",
  "OP_TAILCALL,/*\tA B C\treturn R(A)(R(A+1), ... ,R(A+B-1))\t\t*/",
  "OP_RETURN,/*\tA B\treturn R(A), ... ,R(A+B-2)\t(see note)\t*/",
  "",
  "OP_FORLOOP,/*\tA sBx\tR(A)+=R(A+2); if R(A) <?= R(A+1) then PC+= sBx\t*/",
  "",
  "OP_TFORLOOP,/*\tA C\tR(A+2), ... ,R(A+2+C) := R(A)(R(A+1), R(A+2));",
  "                        if R(A+2) ~= nil then pc++\t\t\t*/",
  "OP_TFORPREP,/*\tA sBx\tif type(R(A)) == table then R(A+1):=R(A), R(A):=next;",
  "\t\t\tPC += sBx\t\t\t\t\t*/",
  "",
  "OP_SETLIST,/*\tA Bx\tR(A)[Bx-Bx%FPF+i] := R(A+i), 1 <= i <= Bx%FPF+1\t*/",
  "OP_SETLISTO,/*\tA Bx\t\t\t\t\t\t\t*/",
  "",
  "OP_CLOSE,/*\tA \tclose all variables in the stack up to (>=) R(A)*/",
  "OP_CLOSURE/*\tA Bx\tR(A) := closure(KPROTO[Bx], R(A), ... ,R(A+n))\t*/",
  "\x7d OpCode;",
  "",
  "",
  "#define NUM_OPCODES\t(cast(int, OP_CLOSURE+1))",
  ""]

/-- The opcode enumeration of Lua 5.1. -/
def lua51 : String := String.intercalate "\n" [
  "typedef enum \x7b",
  "/*----------------------------------------------------------------------",
  "name\t\targs\tdescription",
  "------------------------------------------------------------------------*/",
  "OP_MOVE,/*\tA B\tR(A) := R(B)\t\t\t\t\t*/",
  "OP_LOADK,/*\tA Bx\tR(A) := Kst(Bx)\t\t\t\t\t*/",
  "OP_LOADBOOL,/*\tA B C\tR(A) := (Bool)B; if (C) pc++\t\t\t*/",
  "OP_LOADNIL,/*\tA B\tR(A) := ... := R(B) := nil\t\t\t*/",
  "OP_GETUPVAL,/*\tA B\tR(A) := UpValue[B]\t\t\t\t*/",
  "",
  "OP_GETGLOBAL,/*\tA Bx\tR(A) := Gbl[Kst(Bx)]\t\t\t\t*/",
  "OP_GETTABLE,/*\tA B C\tR(A) := R(B)[RK(C)]\t\t\t\t*/",
  "",
  "OP_SETGLOBAL,/*\tA Bx\tGbl[Kst(Bx)] := R(A)\t\t\t\t*/",
  "OP_SETUPVAL,/*\tA B\tUpValue[B] := R(A)\t\t\t\t*/",
  "OP_SETTABLE,/*\tA B C\tR(A)[RK(B)] := RK(C)\t\t\t\t*/",
  "",
  "OP_NEWTABLE,/*\tA B C\tR(A) := \x7b\x7d (size = B,C)\t\t\t\t*/",
  "",
  "OP_SELF,/*\tA B C\tR(A+1) := R(B); R(A) := R(B)[RK(C)]\t\t*/",
  "",
  "OP_ADD,/*\tA B C\tR(A) := RK(B) + RK(C)\t\t\t\t*/",
  "OP_SUB,/*\tA B C\tR(A) := RK(B) - RK(C)\t\t\t\t*/",
  "OP_MUL,/*\tA B C\tR(A) := RK(B) * RK(C)\t\t\t\t*/",
  "OP_DIV,/*\tA B C\tR(A) := RK(B) / RK(C)\t\t\t\t*/",
  "OP_MOD,/*\tA B C\tR(A) := RK(B) % RK(C)\t\t\t\t*/",
  "OP_POW,/*\tA B C\tR(A) := RK(B) ^ RK(C)\t\t\t\t*/",
  "OP_UNM,/*\tA B\tR(A) := -R(B)\t\t\t\t\t*/",
  "OP_NOT,/*\tA B\tR(A) := not R(B)\t\t\t\t*/",
  "OP_LEN,/*\tA B\tR(A) := length of R(B)\t\t\t\t*/",
  "",
  "OP_CONCAT,/*\tA B C\tR(A) := R(B).. ... ..R(C)\t\t\t*/",
  "",
  "OP_JMP,/*\tsBx\tpc+=sBx\t\t\t\t\t*/",
  "",
  "OP_EQ,/*\tA B C\tif ((RK(B) == RK(C)) ~= A) then pc++\t\t*/",
  "OP_LT,/*\tA B C\tif ((RK(B) <  RK(C)) ~= A) then pc++  \t\t*/",
  "OP_LE,/*\tA B C\tif ((RK(B) <= RK(C)) ~= A) then pc++  \t\t*/",
  "",
  "OP_TEST,/*\tA C\tif not (R(A) <=> C) then pc++\t\t\t*/",
  "OP_TESTSET,/*\tA B C\tif (R(B) <=> C) then R(A) := R(B) else pc++\t*/",
  "",
  "OP_CALL,/*\tA B C\tR(A), ... ,R(A+C-2) := R(A)(R(A+1), ... ,R(A+B-1)) */",
  "OP_TAILCALL,/*\tA B C\treturn R(A)(R(A+1), ... ,R(A+B-1))\t\t*/",
  "OP_RETURN,/*\tA B\treturn R(A), ... ,R(A+B-2)\t(see note)\t*/",
  "",
  "OP_FORLOOP,/*\tA sBx\tR(A)+=R(A+2);",
  "\t\t\tif R(A) <?= R(A+1) then \x7b pc+=sBx; R(A+3)=R(A) \x7d*/",
  "OP_FORPREP,/*\tA sBx\tR(A)-=R(A+2); pc+=sBx\t\t\t\t*/",
  "",
  "OP_TFORLOOP,/*\tA C\tR(A+3), ... ,R(A+2+C) := R(A)(R(A+1), R(A+2));",
  "                        if R(A+3) ~= nil then R(A+2)=R(A+3) else pc++\t*/",
  "OP_SETLIST,/*\tA B C\tR(A)[(C-1)*FPF+i] := R(A+i), 1 <= i <= B\t*/",
  "",
  "OP_CLOSE,/*\tA \tclose all variables in the stack up to (>=) R(A)*/",
  "OP_CLOSURE,/*\tA Bx\tR(A) := closure(KPROTO[Bx], R(A), ... ,R(A+n))\t*/",
  "",
  "OP_VARARG/*\tA B\tR(A), R(A+1), ..., R(A+B-1) = vararg\t\t*/",
  "\x7d OpCode;",
  "",
  "",
  "#define NUM_OPCODES\t(cast(int, OP_VARARG) + 1)",
  ""]

/-- The opcode enumeration of Lua 5.2. -/
def lua52 : String := String.intercalate "\n" [
  "typedef enum \x7b",
  "/*----------------------------------------------------------------------",
  "name\t\targs\tdescription",
  "------------------------------------------------------------------------*/",
  "OP_MOVE,/*\tA B\tR(A) := R(B)\t\t\t\t\t*/",
  "OP_LOADK,/*\tA Bx\tR(A) := Kst(Bx)\t\t\t\t\t*/",
  "OP_LOADKX,/*\tA \tR(A) := Kst(extra arg)\t\t\t\t*/",
  "OP_LOADBOOL,/*\tA B C\tR(A) := (Bool)B; if (C) pc++\t\t\t*/",
  "OP_LOADNIL,/*\tA B\tR(A), R(A+1), ..., R(A+B) := nil\t\t*/",
  "OP_GETUPVAL,/*\tA B\tR(A) := UpValue[B]\t\t\t\t*/",
  "",
  "OP_GETTABUP,/*\tA B C\tR(A) := UpValue[B][RK(C)]\t\t\t*/",
  "OP_GETTABLE,/*\tA B C\tR(A) := R(B)[RK(C)]\t\t\t\t*/",
  "",
  "OP_SETTABUP,/*\tA B C\tUpValue[A][RK(B)] := RK(C)\t\t\t*/",
  "OP_SETUPVAL,/*\tA B\tUpValue[B] := R(A)\t\t\t\t*/",
  "OP_SETTABLE,/*\tA B C\tR(A)[RK(B)] := RK(C)\t\t\t\t*/",
  "",
  "OP_NEWTABLE,/*\tA B C\tR(A) := \x7b\x7d (size = B,C)\t\t\t\t*/",
  "",
  "OP_SELF,/*\tA B C\tR(A+1) := R(B); R(A) := R(B)[RK(C)]\t\t*/",
  "",
  "OP_ADD,/*\tA B C\tR(A) := RK(B) + RK(C)\t\t\t\t*/",
  "OP_SUB,/*\tA B C\tR(A) := RK(B) - RK(C)\t\t\t\t*/",
  "OP_MUL,/*\tA B C\tR(A) := RK(B) * RK(C)\t\t\t\t*/",
  "OP_DIV,/*\tA B C\tR(A) := RK(B) / RK(C)\t\t\t\t*/",
  "OP_MOD,/*\tA B C\tR(A) := RK(B) % RK(C)\t\t\t\t*/",
  "OP_POW,/*\tA B C\tR(A) := RK(B) ^ RK(C)\t\t\t\t*/",
  "OP_UNM,/*\tA B\tR(A) := -R(B)\t\t\t\t\t*/",
  "OP_NOT,/*\tA B\tR(A) := not R(B)\t\t\t\t*/",
  "OP_LEN,/*\tA B\tR(A) := length of R(B)\t\t\t\t*/",
  "",
  "OP_CONCAT,/*\tA B C\tR(A) := R(B).. ... ..R(C)\t\t\t*/",
  "",
  "OP_JMP,/*\tA sBx\tpc+=sBx; if (A) close all upvalues >= R(A - 1)\t*/",
  "OP_EQ,/*\tA B C\tif ((RK(B) == RK(C)) ~= A) then pc++\t\t*/",
  "OP_LT,/*\tA B C\tif ((RK(B) <  RK(C)) ~= A) then pc++\t\t*/",
  "OP_LE,/*\tA B C\tif ((RK(B) <= RK(C)) ~= A) then pc++\t\t*/",
  "",
  "OP_TEST,/*\tA C\tif not (R(A) <=> C) then pc++\t\t\t*/",
  "OP_TESTSET,/*\tA B C\tif (R(B) <=> C) then R(A) := R(B) else pc++\t*/",
  "",
  "OP_CALL,/*\tA B C\tR(A), ... ,R(A+C-2) := R(A)(R(A+1), ... ,R(A+B-1)) */",
  "OP_TAILCALL,/*\tA B C\treturn R(A)(R(A+1), ... ,R(A+B-1))\t\t*/",
  "OP_RETURN,/*\tA B\treturn R(A), ... ,R(A+B-2)\t(see note)\t*/",
  "",
  "OP_FORLOOP,/*\tA sBx\tR(A)+=R(A+2);",
  "\t\t\tif R(A) <?= R(A+1) then \x7b pc+=sBx; R(A+3)=R(A) \x7d*/",
  "OP_FORPREP,/*\tA sBx\tR(A)-=R(A+2); pc+=sBx\t\t\t\t*/",
  "",
  "OP_TFORCALL,/*\tA C\tR(A+3), ... ,R(A+2+C) := R(A)(R(A+1), R(A+2));\t*/",
  "OP_TFORLOOP,/*\tA sBx\tif R(A+1) ~= nil then \x7b R(A)=R(A+1); pc += sBx \x7d*/",
  "",
  "OP_SETLIST,/*\tA B C\tR(A)[(C-1)*FPF+i] := R(A+i), 1 <= i <= B\t*/",
  "",
  "OP_CLOSURE,/*\tA Bx\tR(A) := closure(KPROTO[Bx])\t\t\t*/",
  "",
  "OP_VARARG,/*\tA B\tR(A), R(A+1), ..., R(A+B-2) = vararg\t\t*/",
  "",
  "OP_EXTRAARG/*\tAx\textra (larger) argument for previous opcode\t*/",
  "\x7d OpCode;",
  "",
  "",
  "#define NUM_OPCODES\t(cast(int, OP_EXTRAARG) + 1)",
  ""]

/-- The opcode enumeration of Lua 5.3. -/
def lua53 : String := String.intercalate "\n" [
  "typedef enum \x7b",
  "/*----------------------------------------------------------------------",
  "name\t\targs\tdescription",
  "------------------------------------------------------------------------*/",
  "OP_MOVE,/*\tA B\tR(A) := R(B)\t\t\t\t\t*/",
  "OP_LOADK,/*\tA Bx\tR(A) := Kst(Bx)\t\t\t\t\t*/",
  "OP_LOADKX,/*\tA \tR(A) := Kst(extra arg)\t\t\t\t*/",
  "OP_LOADBOOL,/*\tA B C\tR(A) := (Bool)B; if (C) pc++\t\t\t*/",
  "OP_LOADNIL,/*\tA B\tR(A), R(A+1), ..., R(A+B) := nil\t\t*/",
  "OP_GETUPVAL,/*\tA B\tR(A) := UpValue[B]\t\t\t\t*/",
  "",
  "OP_GETTABUP,/*\tA B C\tR(A) := UpValue[B][RK(C)]\t\t\t*/",
  "OP_GETTABLE,/*\tA B C\tR(A) := R(B)[RK(C)]\t\t\t\t*/",
  "",
  "OP_SETTABUP,/*\tA B C\tUpValue[A][RK(B)] := RK(C)\t\t\t*/",
  "OP_SETUPVAL,/*\tA B\tUpValue[B] := R(A)\t\t\t\t*/",
  "OP_SETTABLE,/*\tA B C\tR(A)[RK(B)] := RK(C)\t\t\t\t*/",
  "",
  "OP_NEWTABLE,/*\tA B C\tR(A) := \x7b\x7d (size = B,C)\t\t\t\t*/",
  "",
  "OP_SELF,/*\tA B C\tR(A+1) := R(B); R(A) := R(B)[RK(C)]\t\t*/",
  "",
  "OP_ADD,/*\tA B C\tR(A) := RK(B) + RK(C)\t\t\t\t*/",
  "OP_SUB,/*\tA B C\tR(A) := RK(B) - RK(C)\t\t\t\t*/",
  "OP_MUL,/*\tA B C\tR(A) := RK(B) * RK(C)\t\t\t\t*/",
  "OP_MOD,/*\tA B C\tR(A) := RK(B) % RK(C)\t\t\t\t*/",
  "OP_POW,/*\tA B C\tR(A) := RK(B) ^ RK(C)\t\t\t\t*/",
  "OP_DIV,/*\tA B C\tR(A) := RK(B) / RK(C)\t\t\t\t*/",
  "OP_IDIV,/*\tA B C\tR(A) := RK(B) // RK(C)\t\t\t\t*/",
  "OP_BAND,/*\tA B C\tR(A) := RK(B) & RK(C)\t\t\t\t*/",
  "OP_BOR,/*\tA B C\tR(A) := RK(B) | RK(C)\t\t\t\t*/",
  "OP_BXOR,/*\tA B C\tR(A) := RK(B) ~ RK(C)\t\t\t\t*/",
  "OP_SHL,/*\tA B C\tR(A) := RK(B) << RK(C)\t\t\t\t*/",
  "OP_SHR,/*\tA B C\tR(A) := RK(B) >> RK(C)\t\t\t\t*/",
  "OP_UNM,/*\tA B\tR(A) := -R(B)\t\t\t\t\t*/",
  "OP_BNOT,/*\tA B\tR(A) := ~R(B)\t\t\t\t\t*/",
  "OP_NOT,/*\tA B\tR(A) := not R(B)\t\t\t\t*/",
  "OP_LEN,/*\tA B\tR(A) := length of R(B)\t\t\t\t*/",
  "",
  "OP_CONCAT,/*\tA B C\tR(A) := R(B).. ... ..R(C)\t\t\t*/",
  "",
  "OP_JMP,/*\tA sBx\tpc+=sBx; if (A) close all upvalues >= R(A - 1)\t*/",
  "OP_EQ,/*\tA B C\tif ((RK(B) == RK(C)) ~= A) then pc++\t\t*/",
  "OP_LT,/*\tA B C\tif ((RK(B) <  RK(C)) ~= A) then pc++\t\t*/",
  "OP_LE,/*\tA B C\tif ((RK(B) <= RK(C)) ~= A) then pc++\t\t*/",
  "",
  "OP_TEST,/*\tA C\tif not (R(A) <=> C) then pc++\t\t\t*/",
  "OP_TESTSET,/*\tA B C\tif (R(B) <=> C) then R(A) := R(B) else pc++\t*/",
  "",
  "OP_CALL,/*\tA B C\tR(A), ... ,R(A+C-2) := R(A)(R(A+1), ... ,R(A+B-1)) */",
  "OP_TAILCALL,/*\tA B C\treturn R(A)(R(A+1), ... ,R(A+B-1))\t\t*/",
  "OP_RETURN,/*\tA B\treturn R(A), ... ,R(A+B-2)\t(see note)\t*/",
  "",
  "OP_FORLOOP,/*\tA sBx\tR(A)+=R(A+2);",
  "\t\t\tif R(A) <?= R(A+1) then \x7b pc+=sBx; R(A+3)=R(A) \x7d*/",
  "OP_FORPREP,/*\tA sBx\tR(A)-=R(A+2); pc+=sBx\t\t\t\t*/",
  "",
  "OP_TFORCALL,/*\tA C\tR(A+3), ... ,R(A+2+C) := R(A)(R(A+1), R(A+2));\t*/",
  "OP_TFORLOOP,/*\tA sBx\tif R(A+1) ~= nil then \x7b R(A)=R(A+1); pc += sBx \x7d*/",
  "",
  "OP_SETLIST,/*\tA B C\tR(A)[(C-1)*FPF+i] := R(A+i), 1 <= i <= B\t*/",
  "",
  "OP_CLOSURE,/*\tA Bx\tR(A) := closure(KPROTO[Bx])\t\t\t*/",
  "",
  "OP_VARARG,/*\tA B\tR(A), R(A+1), ..., R(A+B-2) = vararg\t\t*/",
  "",
  "OP_EXTRAARG/*\tAx\textra (larger) argument for previous opcode\t*/",
  "\x7d OpCode;",
  "",
  "",
  "#define NUM_OPCODES\t(cast(int, OP_EXTRAARG) + 1)",
  ""]

end Bundled

end LuaListing
