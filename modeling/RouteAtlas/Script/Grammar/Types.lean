import RouteAtlas.Script.Grammar.Names

/-!
# Rules: types
-/

namespace RouteAtlas.Script.Grammar

open Rule Phrase

/-- The rules of types. -/
def typeRules : List (Phrase × Rule) :=
  [(typeAscription, seq [":", alt [type, importedMember, importedCall]]),
   (omittingAscription, seq ["-?:", type]),
   (addingAscription, seq ["+?:", type]),
   (optingAscription, seq ["?:", type]),
   (importedMember,
    seq [alt [importWord, importedMember, importedCall], ".", alt [token .hashName, token .name]]),
   (importedCall, seq [alt [importWord, importedMember], arguments]),
   (asserts, seq ["asserts", alt [typePredicate, token .name, "this"]]),
   (assertsAscription, seq [":", asserts]),
   (type,
    alt [
      primaryType, functionType, readonlyType, constructorType, inferType,
      lowered importedMember, lowered importedCall]),
   (tupleParameter, seq [alt [token .name, restPattern], typeAscription]),
   (optionalTupleParameter, seq [token .name, "?", typeAscription]),
   (optionalType, seq [type, "?"]),
   (restType, seq ["...", type]),
   (tupleMember, alt [tupleParameter, optionalTupleParameter, optionalType, restType, type]),
   (constructorType,
    leftmost (seq [opt "abstract", "new", opt typeParameters, formalParameters, "=>", type])),
   (primaryType,
    alt [
      parenthesizedType, predefinedType, token .name, nestedTypeIdentifier, genericType,
      objectType, arrayType, tupleType, flowMaybeType, typeQuery, indexTypeQuery, "this", starType,
      literalType, lookupType, conditionalType, templateLiteralType, intersectionType, unionType,
      "const"]),
   (templateType, seq ["$\x7b", alt [primaryType, inferType], "\x7d"]),
   (templateLiteralType, seq ["`", many (alt [token .templateText, templateType]), "`"]),
   (inferType, rightmost (seq ["infer", token .name, opt (seq ["extends", type])])),
   (conditionalType, rightmost (seq [type, "extends", type, "?", type, ":", type])),
   (genericType, level .call (seq [alt [token .name, nestedTypeIdentifier], typeArguments])),
   (typePredicate, seq [alt [token .name, "this", predefinedType], "is", type]),
   (predicateAscription, seq [":", typePredicate]),
   (queryMember,
    seq [
      alt [token .name, "this", querySubscript, queryMember, queryCall], alt [".", "?."],
      alt [token .hashName, token .name]]),
   (querySubscript,
    seq [
      alt [token .name, "this", querySubscript, queryMember, queryCall], opt "?.", "[",
      alt [predefinedType, string, token .number], "]"]),
   (queryCall, seq [alt [importWord, token .name, queryMember, querySubscript], arguments]),
   (queryInstantiation,
    seq [alt [importWord, token .name, queryMember, querySubscript], typeArguments]),
   (typeQuery,
    rightmost <|
      seq [
        "typeof",
        alt [querySubscript, queryMember, queryCall, queryInstantiation, token .name, "this"]]),
   (indexTypeQuery, seq ["keyof", primaryType]),
   (lookupType, seq [primaryType, "[", type, "]"]),
   (mappedTypeClause, seq [token .name, "in", type, opt (seq ["as", type])]),
   (literalType, alt [signedNumber, token .number, string, "true", "false", "null", "undefined"]),
   (signedNumber, .ranked (some (.number 1)) (some .left) (seq [alt ["-", "+"], token .number])),
   (starType, .spelled "*"),
   (flowMaybeType, rightmost (seq ["?", primaryType])),
   (parenthesizedType, seq ["(", type, ")"]),
   (predefinedType,
    alt [
      "any", "number", "boolean", "string", "symbol", seq ["unique", "symbol"], "void", "unknown",
      "never", "object"]),
   (typeArguments, seq ["<", commaSep1 type, opt ",", ">"]),
   (objectType,
    seq [
      alt ["\x7b", "\x7b|"],
      opt <|
        seq [
          opt (alt [",", ";"]),
          sepBy1 (alt [",", semicolon]) <|
            alt [
              exportStatement, propertySignature, callSignature, constructSignature,
              indexSignature, methodSignature],
          opt (alt [",", semicolon])],
      alt ["\x7d", "|\x7d"]]),
   (callSignature, .phrase signature),
   (propertySignature,
    seq [
      opt accessibilityModifier, opt "static", opt overrideModifier, opt "readonly", propertyName,
      opt "?", opt typeAscription]),
   (typeParameters, seq ["<", commaSep1 typeParameter, opt ",", ">"]),
   (typeParameter, seq [opt "const", token .name, opt constraint, opt defaultType]),
   (defaultType, seq ["=", type]),
   (constraint, seq [alt ["extends", ":"], type]),
   (constructSignature,
    seq [opt "abstract", "new", opt typeParameters, formalParameters, opt typeAscription]),
   (indexSignature,
    seq [
      opt (seq [opt (alt ["-", "+"]), "readonly"]), "[",
      alt [seq [alt [token .name, softWord], ":", type], mappedTypeClause], "]",
      alt [typeAscription, omittingAscription, addingAscription, optingAscription]]),
   (arrayType, seq [primaryType, "[", "]"]),
   (tupleType, seq ["[", commaSep tupleMember, opt ",", "]"]),
   (readonlyType, seq ["readonly", type]),
   (unionType, leftmost (seq [opt type, "|", type])),
   (intersectionType, leftmost (seq [opt type, "&", type])),
   (functionType,
    leftmost <|
      seq [opt typeParameters, formalParameters, "=>", alt [type, asserts, typePredicate]]),
   (nestedTypeIdentifier,
    level .member (seq [alt [token .name, nestedIdentifier], ".", token .name]))]

end RouteAtlas.Script.Grammar
