import AppSurvey.Dex.Filter
import AppSurvey.Dex.Listing
import AppSurvey.Dex.Outline
import AppSurvey.Record.Basic

/-!
# Records of classes and code

The parts of a DEX file, the classes found in one and the filters to search them, as records.
-/

namespace AppSurvey.Dex

open Text

instance : ToValue Access := ⟨fun access => toValue access.bits⟩

instance : OfValue Access := ⟨fun value => ⟨ofValue value⟩⟩

instance : ToValue Extent := ⟨fun extent => toValue [extent.size, extent.offset]⟩

instance : ToValue Header where
  toValue header := .record [
    ("magic", toValue (bytesText header.magic)),
    ("version", toValue (bytesText header.version)),
    ("signature", toValue (bytesText header.signature)),
    ("checksum", toValue header.checksum),
    ("file_size", toValue header.fileSize),
    ("header_size", toValue header.headerSize),
    ("endian_tag", toValue header.endianTag),
    ("link", toValue header.link),
    ("map_off", toValue header.mapOffset),
    ("string_ids", toValue header.strings),
    ("type_ids", toValue header.types),
    ("proto_ids", toValue header.protos),
    ("field_ids", toValue header.fields),
    ("method_ids", toValue header.methods),
    ("class_defs", toValue header.classes),
    ("data", toValue header.data)]

instance : ToValue ClassDef where
  toValue definition := toValue [
    definition.type, definition.access, definition.superclass, definition.interfaces,
    definition.sourceFile, definition.annotations, definition.classData, definition.staticValues]

instance : ToValue FieldEntry := ⟨fun entry => toValue [entry.field, entry.access]⟩

instance : ToValue MethodEntry := ⟨fun entry => toValue [entry.method, entry.access, entry.code]⟩

instance : ToValue ClassData where
  toValue data := .record [
    ("static_fields", toValue data.staticFields),
    ("instance_fields", toValue data.instanceFields),
    ("direct_methods", toValue data.directMethods),
    ("virtual_methods", toValue data.virtualMethods)]

instance : ToValue FieldRef :=
  ⟨fun field => .list [toValue field.owner, toValue field.type, toValue field.name]⟩

instance : ToValue MethodRef :=
  ⟨fun method => .list [toValue method.owner, toValue method.proto, toValue method.name]⟩

instance : ToValue Proto where
  toValue proto := .record [
    ("return", toValue proto.returnType), ("parameters", toValue proto.parameters)]

instance : ToValue Listing where
  toValue listing := .record [
    ("opcode", toValue listing.opcode),
    ("dest", toValue listing.dest),
    ("value", toValue listing.value),
    ("string_idx", toValue listing.string),
    ("method_idx", toValue listing.method),
    ("args", toValue listing.args),
    ("raw", toValue listing.raw)]

instance : ToValue Signature where
  toValue signature := .record [
    ("class_name", toValue signature.className),
    ("method_name", toValue signature.methodName),
    ("parameters", toValue signature.parameters),
    ("return_type", toValue signature.returnType),
    ("full_signature", toValue signature.full)]

instance : OfValue Signature where
  ofValue value :=
    { className := value.get "class_name"
      methodName := value.get "method_name"
      parameters := value.get "parameters"
      returnType := value.get "return_type"
      full := value.get "full_signature" }

/-- What is known about a register, from a list of a kind and its parts; `depth` bounds the
nesting. -/
def RegisterValue.ofList : (depth : Nat) → Value → RegisterValue
  | 0, _ => .unknown
  | depth + 1, value =>
      match (value.nth 0 : String) with
      | "int" => .int (value.nth 1)
      | "str" => .string (value.nth 1)
      | "this" => .this
      | "param" => .param (value.nth 1)
      | "field" => .field (ofList depth (value.item 1)) (value.nth 2) (value.nth 3)
      | "call" =>
          .call (ofList depth (value.item 1)) (value.nth 2)
            ((value.item 3).items.map (ofList depth))
      | _ => .unknown

instance : OfValue RegisterValue := ⟨fun value => RegisterValue.ofList value.depth value⟩

instance : ToValue Expression where
  toValue expression := .record [
    ("expression", toValue expression.text),
    ("value_type", toValue expression.valueType),
    ("is_method_call", toValue expression.isMethodCall),
    ("method_signature", toValue expression.signature)]

instance : OfValue Expression where
  ofValue value :=
    { text := value.get "expression"
      valueType := value.get "value_type"
      isMethodCall := value.get "is_method_call"
      signature := value.get "method_signature" }

instance : ToValue MethodOutline where
  toValue method := .record [
    ("name", toValue method.name),
    ("signature", toValue method.signature),
    ("access_flags", toValue method.access),
    ("is_public", toValue method.isPublic),
    ("is_private", toValue method.isPrivate),
    ("is_static", toValue method.isStatic),
    ("parameters", toValue method.parameters),
    ("return_type", toValue method.returnType),
    ("expressions", toValue method.expressions),
    ("bytecode_size", toValue method.codeSize),
    ("has_security_calls", toValue method.hasSecurityCalls),
    ("webview_expressions", toValue (method.webViewExpressions.map Expression.text))]

instance : OfValue MethodOutline where
  ofValue value :=
    { name := value.get "name"
      signature := value.get "signature"
      access := value.get "access_flags"
      isPublic := value.get "is_public"
      isPrivate := value.get "is_private"
      isStatic := value.get "is_static"
      parameters := value.get "parameters"
      returnType := value.get "return_type"
      expressions := value.get "expressions"
      codeSize := value.get "bytecode_size" }

instance : ToValue ClassOutline where
  toValue outline := .record [
    ("class_name", toValue outline.className),
    ("package", toValue outline.package),
    ("simple_name", toValue outline.simpleName),
    ("superclass", toValue outline.superclass),
    ("interfaces", toValue outline.interfaces),
    ("fields", toValue outline.fields),
    ("methods", toValue outline.methods),
    ("access_flags", toValue outline.access),
    ("is_public", toValue outline.access.isPublic),
    ("is_final", toValue outline.access.isFinal),
    ("is_abstract", toValue outline.access.isAbstract),
    ("security_methods", toValue (outline.securityMethods.map MethodOutline.name)),
    ("webview_methods", toValue (outline.webViewMethods.map MethodOutline.name)),
    ("summary", toValue outline.report)]

instance : OfValue ClassOutline where
  ofValue value :=
    { className := value.get "class_name"
      package := value.get "package"
      simpleName := value.get "simple_name"
      superclass := value.get "superclass"
      interfaces := value.get "interfaces"
      fields := value.get "fields"
      methods := value.get "methods"
      access := value.get "access_flags" }

instance : ToValue ReferencePool where
  toValue pool := .record [
    ("strings", toValue pool.strings),
    ("types", toValue pool.types),
    ("fields", toValue pool.fields),
    ("methods", toValue pool.methods)]

instance : OfValue ReferencePool where
  ofValue value :=
    { strings := value.get "strings"
      types := value.get "types"
      fields := value.get "fields"
      methods := value.get "methods" }

instance : ToValue Field where
  toValue field := .record [
    ("name", toValue field.name),
    ("field_type", toValue field.type),
    ("declaring_class", toValue field.owner),
    ("access_flags", toValue field.access),
    ("is_public", toValue field.access.isPublic),
    ("is_private", toValue field.access.isPrivate),
    ("is_protected", toValue field.access.isProtected),
    ("is_static", toValue field.access.isStatic),
    ("is_final", toValue field.access.isFinal)]

instance : OfValue Field where
  ofValue value :=
    { name := value.get "name"
      type := value.get "field_type"
      owner := value.get "declaring_class"
      access := value.get "access_flags" }

instance : ToValue Method where
  toValue method := .record [
    ("name", toValue method.name),
    ("parameters", toValue method.parameters),
    ("return_type", toValue method.returnType),
    ("declaring_class", toValue method.owner),
    ("access_flags", toValue method.access),
    ("is_public", toValue method.access.isPublic),
    ("is_private", toValue method.access.isPrivate),
    ("is_protected", toValue method.access.isProtected),
    ("is_static", toValue method.access.isStatic),
    ("is_final", toValue method.access.isFinal),
    ("is_constructor", toValue method.isConstructor),
    ("signature", toValue method.signature),
    ("references", toValue method.references)]

instance : OfValue Method where
  ofValue value :=
    { name := value.get "name"
      parameters := value.get "parameters"
      returnType := value.get "return_type"
      owner := value.get "declaring_class"
      access := value.get "access_flags"
      references := value.get "references" }

instance : ToValue Class where
  toValue c := .record [
    ("class_name", toValue c.className),
    ("package_name", toValue c.package),
    ("simple_name", toValue c.simpleName),
    ("superclass", toValue c.superclass),
    ("interfaces", toValue c.interfaces),
    ("access_flags", toValue c.access),
    ("is_public", toValue c.access.isPublic),
    ("is_final", toValue c.access.isFinal),
    ("is_abstract", toValue c.access.isAbstract),
    ("is_interface", toValue c.access.isInterface),
    ("is_enum", toValue c.access.isEnum),
    ("method_count", toValue c.methods.length),
    ("field_count", toValue c.fields.length),
    ("fields", toValue c.fields),
    ("methods", toValue c.methods),
    ("references", toValue c.references)]

instance : OfValue Class where
  ofValue value :=
    { Class.named (value.get "class_name") with
      superclass := value.get "superclass"
      interfaces := value.get "interfaces"
      access := value.get "access_flags"
      fields := value.get "fields"
      methods := value.get "methods"
      references := value.get "references" }

instance : OfValue ClassFilter where
  ofValue value :=
    { packages := value.get "packages"
      excludePackages := value.get "exclude_packages"
      className := value.get "class_name"
      modifiers := value.get "modifiers" }

instance : OfValue MethodFilter where
  ofValue value :=
    { methodName := value.get "method_name"
      paramCount := value.get "param_count"
      paramTypes := value.get "param_types"
      returnType := value.get "return_type"
      modifiers := value.get "modifiers" }

instance : OfValue Entry where
  ofValue value :=
    { name := value.get "name"
      image := (bytesOf (value.get "hex" : String).toList).toArray }

end AppSurvey.Dex
