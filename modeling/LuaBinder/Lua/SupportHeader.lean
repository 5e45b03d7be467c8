/-!
The support header: the helpers that all generated bindings share.
-/

namespace LuaBinder.Lua

/-- Where the support header stands below the output directory. -/
def supportHeaderPath : String := "dub/dub.h"

/-- The lines of the support header. -/
def supportHeaderLines : List String :=
  ["#ifndef DUB_DUB_H_",
   "#define DUB_DUB_H_",
   "",
   "extern \"C\" \x7b",
   "#include \"lua.h\"",
   "#include \"lauxlib.h\"",
   "\x7d",
   "",
   "#include <exception>",
   "",
   "// Userdata payload: the wrapped object and whether Lua deletes it on collection.",
   "struct DubUserdata \x7b",
   "  void *ptr;",
   "  bool gc;",
   "\x7d;",
   "",
   "// Named numeric constant registered on a class metatable.",
   "struct dub_const_Reg \x7b",
   "  const char *name;",
   "  double value;",
   "\x7d;",
   "",
   "// Slot holding the object of a live userdata of the given metatable, or a Lua error.",
   "inline void **dubL_checkudata(lua_State *L, int ud, const char *tname) \x7b",
   "  DubUserdata *userdata = (DubUserdata *)luaL_checkudata(L, ud, tname);",
   "  if (userdata->ptr == NULL) luaL_error(L, \"using deleted %s\", tname);",
   "  return &userdata->ptr;",
   "\x7d",
   "",
   "// True when the value at `ud` is a userdata of the given metatable.",
   "inline bool dubL_testudata(lua_State *L, int ud, const char *tname) \x7b",
   "  if (lua_touserdata(L, ud) == NULL || !lua_getmetatable(L, ud)) return false;",
   "  luaL_getmetatable(L, tname);",
   "  bool ok = lua_rawequal(L, -1, -2) != 0;",
   "  lua_pop(L, 2);",
   "  return ok;",
   "\x7d",
   "",
   "// True when the value at `index` is a number without a fractional part.",
   "inline bool dub_isinteger(lua_State *L, int index) \x7b",
   "  if (lua_type(L, index) != LUA_TNUMBER) return false;",
   "  lua_Number n = lua_tonumber(L, index);",
   "  return n == (lua_Number)(lua_Integer)n;",
   "\x7d",
   "",
   "// Push `ptr` as a new userdata with the given metatable. With `gc` set the",
   "// object is deleted when the userdata is collected.",
   "inline void dub_pushudata(lua_State *L, void *ptr, const char *tname, bool gc) \x7b",
   "  DubUserdata *userdata = (DubUserdata *)lua_newuserdata(L, sizeof(DubUserdata));",
   "  userdata->ptr = ptr;",
   "  userdata->gc = gc;",
   "  luaL_getmetatable(L, tname);",
   "  lua_setmetatable(L, -2);",
   "\x7d",
   "",
   "// Set every constant of `regs` on the table at the top of the stack.",
   "inline void dub_register_const(lua_State *L, const dub_const_Reg *regs) \x7b",
   "  for (; regs->name; ++regs) \x7b",
   "    lua_pushnumber(L, regs->value);",
   "    lua_setfield(L, -2, regs->name);",
   "  \x7d",
   "\x7d",
   "",
   "// `obj:deleted()`: true once the wrapped object is gone.",
   "inline int dub_isDeleted(lua_State *L) \x7b",
   "  DubUserdata *userdata = (DubUserdata *)lua_touserdata(L, 1);",
   "  lua_pushboolean(L, userdata == NULL || userdata->ptr == NULL);",
   "  return 1;",
   "\x7d",
   "",
   "#endif // DUB_DUB_H_"]

/-- The text of the support header. -/
def supportHeader : String := String.join (supportHeaderLines.map (· ++ "\n"))

end LuaBinder.Lua
