import ToolRelay.Session.Shape

/-!
# Parameters of the editor protocol

The shapes of what an editor sends along with a call: when it opens a session, for a command, and
for the methods that the protocol has but this server does not serve.

* `Parameters.opening` and `Parameters.command` are the shapes for the methods that are served.
* `Parameters.unserved` lists the other methods that are to be answered.
-/

namespace ToolRelay

namespace Parameters

/-! ### Building blocks -/

/-- Members that have to be there. -/
def required (members : List (String × Shape)) : List (String × Duty × Shape) :=
  members.map fun (name, s) => (name, .always, s)

/-- Members that may be absent or `null`. -/
def voluntary (members : List (String × Shape)) : List (String × Duty × Shape) :=
  members.map fun (name, s) => (name, .inSequence, .optional s)

/-- A record of required members. -/
def recordOf (name : String) (members : List (String × Shape)) : Shape :=
  .record name (.ofList (required members))

/-- A record of members that may be absent or `null`. -/
def capabilities (name : String) (members : List (String × Shape)) : Shape :=
  .record name (.ofList (voluntary members))

/-- Parts that are given by their members. -/
def partsOf (parts : List Members) : Parts := parts.foldr .cons .nil

/-- A natural number of 32 bits. -/
def unsigned : Shape := .integer 0 0xFFFFFFFF "u32"

/-- An integer of 32 bits. -/
def signed : Shape := .integer (-0x80000000) 0x7FFFFFFF "i32"

/-- A text or a number that tells calls apart. -/
def token : Shape := .either "NumberOrString" signed .text

/-- By which the editor wants to hear about progress. -/
def progress : Members := .ofList (voluntary [("workDoneToken", token)])

/-- By which the editor wants to get results piece by piece. -/
def piecemeal : Members := .ofList (voluntary [("partialResultToken", token)])

/-! ### Places in documents -/

/-- A place in a document. -/
def position : Shape := recordOf "Position" [("line", unsigned), ("character", unsigned)]

/-- A piece of a document. -/
def range : Shape := recordOf "Range" [("start", position), ("end", position)]

/-- A piece of some document. -/
def location : Shape := recordOf "Location" [("uri", .uri), ("range", range)]

/-- A document by its URI. -/
def identifier : Shape := recordOf "TextDocumentIdentifier" [("uri", .uri)]

/-- A place in some document, member by member. -/
def placeMembers : List (String × Shape) := [("textDocument", identifier), ("position", position)]

/-- A place in some document. -/
def place : Members := .ofList (required placeMembers)

/-- Replaces a piece of a document. -/
def textEdit : Shape := recordOf "TextEdit" [("range", range), ("newText", .text)]

/-- Text with a markup. -/
def markup : Shape :=
  recordOf "MarkupContent" [("kind", .word ["plaintext", "markdown"]), ("value", .text)]

/-- A command with its title. -/
def titledCommand : Shape :=
  .record "Command" (.ofList
    (required [("title", .text), ("command", .text)] ++ voluntary [("arguments", .list .anything)]))

/-- A problem in a document. -/
def diagnostic : Shape :=
  .record "Diagnostic" (.ofList (
    required [("range", range)] ++
    voluntary [("severity", signed), ("code", token),
      ("codeDescription", recordOf "CodeDescription" [("href", .uri)]), ("source", .text)] ++
    required [("message", .text)] ++
    voluntary [("relatedInformation", .list (recordOf "DiagnosticRelatedInformation"
        [("location", location), ("message", .text)])),
      ("tags", .list signed), ("data", .anything)]))

/-! ### Shapes that several methods share -/

/-- A call about a place in a document. -/
def atPlace (name : String) (own : Members) (inPieces : Bool) : Shape :=
  .merged name own (partsOf ([place, progress] ++ if inPieces then [piecemeal] else []))

/-- A call about a document. -/
def aboutDocument (name : String) (others : List (String × Duty × Shape)) : Shape :=
  .merged name (.ofList (required [("textDocument", identifier)] ++ others))
    (partsOf [progress, piecemeal])

/-- A call about a document whose result comes in one piece. -/
def aboutWholeDocument (name : String) (others : List (String × Shape)) : Shape :=
  .merged name (.ofList (required (("textDocument", identifier) :: others))) (partsOf [progress])

/-- An item of a hierarchy; `tags` is the shape of its tags. -/
def hierarchyItem (name : String) (tags : Shape) : Shape :=
  .record name (.ofList (
    required [("name", .text), ("kind", signed)] ++ voluntary [("tags", tags), ("detail", .text)] ++
    required [("uri", .uri), ("range", range), ("selectionRange", range)] ++
    voluntary [("data", .anything)]))

/-- A call about an item. -/
def aboutItem (name : String) (item : Shape) : Shape :=
  .merged name (.ofList (required [("item", item)])) (partsOf [progress, piecemeal])

/-- An item of a call hierarchy. -/
def callItem : Shape := hierarchyItem "CallHierarchyItem" (.list signed)

/-- An item of a type hierarchy. -/
def typeItem : Shape := hierarchyItem "TypeHierarchyItem" signed

/-- How a document is to be formatted; what has no meaning here may be told too. -/
def formatting : Shape :=
  .merged "FormattingOptions"
    (.ofList (required [("tabSize", unsigned), ("insertSpaces", .flag)] ++
      voluntary [("trimTrailingWhitespace", .flag), ("insertFinalNewline", .flag),
        ("trimFinalNewlines", .flag)]))
    (.others (.either "FormattingProperty" .flag token) .nil)

/-- Files that something happens to. -/
def files (name file : String) (members : List String) : Shape :=
  recordOf name [("files", .list (recordOf file (members.map (·, .text))))]

/-! ### What an editor can do -/

/-- Whether something can be registered later. -/
def dynamic (name : String) (others : List (String × Shape)) : Shape :=
  capabilities name (("dynamicRegistration", .flag) :: others)

/-- Whether something can be refreshed. -/
def refreshable (name : String) : Shape := capabilities name [("refreshSupport", .flag)]

/-- What the editor can do with a workspace. -/
def workspaceCapabilities : Shape :=
  let plain := dynamic "DynamicRegistrationClientCapabilities" []
  capabilities "WorkspaceClientCapabilities" [
    ("applyEdit", .flag),
    ("workspaceEdit", capabilities "WorkspaceEditClientCapabilities" [
      ("documentChanges", .flag),
      ("resourceOperations", .list (.word ["create", "rename", "delete"])),
      ("failureHandling", .word ["abort", "transactional", "textOnlyTransactional", "undo"]),
      ("normalizesLineEndings", .flag),
      ("changeAnnotationSupport",
        capabilities "ChangeAnnotationWorkspaceEditClientCapabilities"
          [("groupsOnLabel", .flag)])]),
    ("didChangeConfiguration", plain),
    ("didChangeWatchedFiles", dynamic "DidChangeWatchedFilesClientCapabilities"
      [("relativePatternSupport", .flag)]),
    ("symbol", dynamic "WorkspaceSymbolClientCapabilities" []),
    ("executeCommand", plain),
    ("workspaceFolders", .flag),
    ("configuration", .flag),
    ("semanticTokens", refreshable "SemanticTokensWorkspaceClientCapabilities"),
    ("codeLens", refreshable "CodeLensWorkspaceClientCapabilities"),
    ("fileOperations", dynamic "WorkspaceFileOperationsClientCapabilities"
      [("didCreate", .flag), ("willCreate", .flag), ("didRename", .flag), ("willRename", .flag),
        ("didDelete", .flag), ("willDelete", .flag)]),
    ("inlineValue", refreshable "InlineValueWorkspaceClientCapabilities"),
    ("inlayHint", refreshable "InlayHintWorkspaceClientCapabilities"),
    ("diagnostic", refreshable "DiagnosticWorkspaceClientCapabilities")]

/-- What the editor can do with documents. -/
def documentCapabilities : Shape :=
  let plain := dynamic "DynamicRegistrationClientCapabilities" []
  let link := dynamic "GotoCapability" [("linkSupport", .flag)]
  capabilities "TextDocumentClientCapabilities" [
    ("synchronization", dynamic "TextDocumentSyncClientCapabilities"
      [("willSave", .flag), ("willSaveWaitUntil", .flag), ("didSave", .flag)]),
    ("completion", dynamic "CompletionClientCapabilities" []),
    ("hover", dynamic "HoverClientCapabilities"
      [("contentFormat", .list (.word ["plaintext", "markdown"]))]),
    ("signatureHelp", dynamic "SignatureHelpClientCapabilities" []),
    ("references", plain),
    ("documentHighlight", plain),
    ("documentSymbol", dynamic "DocumentSymbolClientCapabilities" []),
    ("formatting", plain),
    ("rangeFormatting", plain),
    ("onTypeFormatting", plain),
    ("declaration", link),
    ("definition", link),
    ("typeDefinition", link),
    ("implementation", link),
    ("codeAction", dynamic "CodeActionClientCapabilities" []),
    ("codeLens", plain),
    ("documentLink", dynamic "DocumentLinkClientCapabilities" [("tooltipSupport", .flag)]),
    ("colorProvider", plain),
    ("rename", dynamic "RenameClientCapabilities" []),
    ("publishDiagnostics", capabilities "PublishDiagnosticsClientCapabilities"
      [("relatedInformation", .flag)]),
    ("foldingRange", dynamic "FoldingRangeClientCapabilities" []),
    ("selectionRange", dynamic "SelectionRangeClientCapabilities" []),
    ("linkedEditingRange", plain),
    ("callHierarchy", plain),
    ("semanticTokens", dynamic "SemanticTokensClientCapabilities" []),
    ("moniker", plain),
    ("typeHierarchy", plain),
    ("inlineValue", plain),
    ("inlayHint", dynamic "InlayHintClientCapabilities" []),
    ("diagnostic", dynamic "DiagnosticClientCapabilities" [("relatedDocumentSupport", .flag)])]

/-- What the editor can show. -/
def windowCapabilities : Shape :=
  capabilities "WindowClientCapabilities" [
    ("workDoneProgress", .flag),
    ("showMessage", capabilities "ShowMessageRequestClientCapabilities" [
      ("messageActionItem", capabilities "MessageActionItemCapabilities"
        [("additionalPropertiesSupport", .flag)])]),
    ("showDocument", recordOf "ShowDocumentClientCapabilities" [("support", .flag)])]

/-- What the editor can do in general. -/
def generalCapabilities : Shape :=
  capabilities "GeneralClientCapabilities" [
    ("regularExpressions", .record "RegularExpressionsClientCapabilities"
      (.ofList (required [("engine", .text)] ++ voluntary [("version", .text)]))),
    ("markdown", .record "MarkdownClientCapabilities"
      (.ofList (required [("parser", .text)] ++
        voluntary [("version", .text), ("allowedTags", .list .text)]))),
    ("staleRequestSupport", recordOf "StaleRequestSupportClientCapabilities"
      [("cancel", .flag), ("retryOnContentModified", .list .text)]),
    ("positionEncodings", .list .text)]

/-- What the editor can do. -/
def editorCapabilities : Shape :=
  capabilities "ClientCapabilities"
    [("workspace", workspaceCapabilities), ("textDocument", documentCapabilities),
      ("window", windowCapabilities), ("general", generalCapabilities),
      ("experimental", .anything)]

/-! ### Methods that are served -/

/-- The members by which the editor opens a session. -/
def openingMembers : List (String × Duty × Shape) :=
  [("processId", .inSequence, .optional unsigned),
    ("rootPath", .inSequence, .optional .text),
    ("rootUri", .never, .optional .uri),
    ("initializationOptions", .inSequence, .anything),
    ("capabilities", .always, editorCapabilities),
    ("trace", .never, .optional (.word ["off", "messages", "verbose"])),
    ("workspaceFolders", .inSequence, .optional (.list
      (recordOf "WorkspaceFolder" [("uri", .uri), ("name", .text)]))),
    ("clientInfo", .inSequence, .optional (.record "ClientInfo"
      (.ofList (required [("name", .text)] ++ voluntary [("version", .text)])))),
    ("locale", .inSequence, .optional .text)]

/-- What the editor opens a session with. -/
def opening : Shape := .record "InitializeParams" (.ofList openingMembers)

/-- The options in what the editor opens a session with. -/
def optionsOf : Json → Option Json
  | .array (_ :: _ :: _ :: options :: _) => if options.isNull then none else some options
  | j => (j.get? "initializationOptions").filter (!·.isNull)

/-- A command and its arguments. -/
def command : Shape :=
  .merged "ExecuteCommandParams"
    (.ofList [("command", .always, .text), ("arguments", .never, .list .anything)])
    (partsOf [progress])

/-- The name of the command in its parameters. -/
def commandOf (j : Json) : String :=
  match j.get? "command" with
  | some (.text name) => name
  | _ => ""

/-- The arguments of the command in its parameters. -/
def argumentsOf (j : Json) : List Json :=
  match j.get? "arguments" with
  | some (.array items) => items
  | _ => []

/-! ### Methods that are not served -/

/-- Calls about a place in a document. -/
def unservedAtPlace : List (String × Shape) :=
  let goto := atPlace "GotoDefinitionParams" .nil true
  let context := Members.ofList
    (required [("context", recordOf "ReferenceContext" [("includeDeclaration", .flag)])])
  [("textDocument/declaration", goto),
    ("textDocument/definition", goto),
    ("textDocument/typeDefinition", goto),
    ("textDocument/implementation", goto),
    ("textDocument/references", atPlace "ReferenceParams" context true),
    ("textDocument/prepareCallHierarchy", atPlace "CallHierarchyPrepareParams" .nil false),
    ("textDocument/prepareTypeHierarchy", atPlace "TypeHierarchyPrepareParams" .nil false),
    ("textDocument/documentHighlight", atPlace "DocumentHighlightParams" .nil true),
    ("textDocument/hover", atPlace "HoverParams" .nil false),
    ("textDocument/moniker", atPlace "MonikerParams" .nil true),
    ("textDocument/completion", atPlace "CompletionParams"
      (.ofList (voluntary [("context", .record "CompletionContext" (.ofList
        (required [("triggerKind", signed)] ++ voluntary [("triggerCharacter", .text)])))])) true),
    ("textDocument/signatureHelp", atPlace "SignatureHelpParams"
      (.ofList (voluntary [("context", .record "SignatureHelpContext" (.ofList
        (required [("triggerKind", signed)] ++ voluntary [("triggerCharacter", .text)] ++
          required [("isRetrigger", .flag)] ++
          voluntary [("activeSignatureHelp", .anything)])))])) false),
    ("textDocument/rename",
      atPlace "RenameParams" (.ofList (required [("newName", .text)])) false),
    ("textDocument/prepareRename", recordOf "TextDocumentPositionParams" placeMembers),
    ("textDocument/linkedEditingRange", atPlace "LinkedEditingRangeParams" .nil false),
    ("textDocument/onTypeFormatting", .merged "DocumentOnTypeFormattingParams"
      (.ofList (required [("ch", .text), ("options", formatting)])) (partsOf [place]))]

/-- Calls about a document. -/
def unservedAboutDocument : List (String × Shape) :=
  [("textDocument/willSaveWaitUntil", recordOf "WillSaveTextDocumentParams"
      [("textDocument", identifier), ("reason", signed)]),
    ("textDocument/documentLink", aboutDocument "DocumentLinkParams" []),
    ("textDocument/codeLens", aboutDocument "CodeLensParams" []),
    ("textDocument/foldingRange", aboutDocument "FoldingRangeParams" []),
    ("textDocument/selectionRange", aboutDocument "SelectionRangeParams"
      (required [("positions", .list position)])),
    ("textDocument/documentSymbol", aboutDocument "DocumentSymbolParams" []),
    ("textDocument/semanticTokens/full", aboutDocument "SemanticTokensParams" []),
    ("textDocument/semanticTokens/full/delta", aboutDocument "SemanticTokensDeltaParams"
      (required [("previousResultId", .text)])),
    ("textDocument/semanticTokens/range", aboutDocument "SemanticTokensRangeParams"
      (required [("range", range)])),
    ("textDocument/inlineValue", aboutWholeDocument "InlineValueParams"
      [("range", range), ("context", recordOf "InlineValueContext"
        [("frameId", signed), ("stoppedLocation", range)])]),
    ("textDocument/inlayHint", aboutWholeDocument "InlayHintParams" [("range", range)]),
    ("textDocument/diagnostic", aboutDocument "DocumentDiagnosticParams"
      (voluntary [("identifier", .text), ("previousResultId", .text)])),
    ("textDocument/codeAction", aboutDocument "CodeActionParams"
      (required [("range", range), ("context", .record "CodeActionContext" (.ofList
        (required [("diagnostics", .list diagnostic)] ++
          voluntary [("only", .list .text), ("triggerKind", signed)])))])),
    ("textDocument/documentColor", aboutDocument "DocumentColorParams" []),
    ("textDocument/colorPresentation", aboutDocument "ColorPresentationParams"
      (required [("color", recordOf "Color"
        [("red", .number), ("green", .number), ("blue", .number), ("alpha", .number)]),
        ("range", range)])),
    ("textDocument/formatting", aboutWholeDocument "DocumentFormattingParams"
      [("options", formatting)]),
    ("textDocument/rangeFormatting", aboutWholeDocument "DocumentRangeFormattingParams"
      [("range", range), ("options", formatting)])]

/-- Calls that complete something that the server would have sent. -/
def unservedResolving : List (String × Shape) :=
  let hinted (name : String) : Shape := .either name .text markup
  [("callHierarchy/incomingCalls", aboutItem "CallHierarchyIncomingCallsParams" callItem),
    ("callHierarchy/outgoingCalls", aboutItem "CallHierarchyOutgoingCallsParams" callItem),
    ("typeHierarchy/supertypes", aboutItem "TypeHierarchySupertypesParams" typeItem),
    ("typeHierarchy/subtypes", aboutItem "TypeHierarchySubtypesParams" typeItem),
    ("documentLink/resolve", .record "DocumentLink" (.ofList (required [("range", range)] ++
      voluntary [("target", .uri), ("tooltip", .text), ("data", .anything)]))),
    ("codeLens/resolve", .record "CodeLens" (.ofList (required [("range", range)] ++
      voluntary [("command", titledCommand), ("data", .anything)]))),
    ("inlayHint/resolve", .record "InlayHint" (.ofList (
      required [("position", position), ("label", .either "InlayHintLabel" .text
        (.list (.record "InlayHintLabelPart" (.ofList (required [("value", .text)] ++
          voluntary [("tooltip", hinted "InlayHintLabelPartTooltip"), ("location", location),
            ("command", titledCommand)])))))] ++
      voluntary [("kind", signed), ("textEdits", .list textEdit),
        ("tooltip", hinted "InlayHintTooltip"), ("paddingLeft", .flag), ("paddingRight", .flag),
        ("data", .anything)]))),
    ("completionItem/resolve", .record "CompletionItem" (.ofList (
      required [("label", .text)] ++
      voluntary [("labelDetails", capabilities "CompletionItemLabelDetails"
          [("detail", .text), ("description", .text)]),
        ("kind", signed), ("detail", .text), ("documentation", hinted "Documentation"),
        ("deprecated", .flag), ("preselect", .flag), ("sortText", .text), ("filterText", .text),
        ("insertText", .text), ("insertTextFormat", signed), ("insertTextMode", signed),
        ("textEdit", .anything), ("additionalTextEdits", .list textEdit),
        ("command", titledCommand), ("commitCharacters", .list .text), ("data", .anything),
        ("tags", .list signed)]))),
    ("codeAction/resolve", .record "CodeAction" (.ofList (required [("title", .text)] ++
      voluntary [("kind", .text), ("diagnostics", .list diagnostic), ("edit", .anything),
        ("command", titledCommand), ("isPreferred", .flag),
        ("disabled", recordOf "CodeActionDisabled" [("reason", .text)]),
        ("data", .anything)])))]

/-- Calls about the workspace. -/
def unservedAboutWorkspace : List (String × Shape) :=
  [("workspace/diagnostic", .merged "WorkspaceDiagnosticParams"
      (.ofList (voluntary [("identifier", .text)] ++
        required [("previousResultIds", .list (recordOf "PreviousResultId"
          [("uri", .uri), ("value", .text)]))]))
      (partsOf [progress, piecemeal])),
    ("workspace/symbol", .merged "WorkspaceSymbolParams"
      (.ofList (required [("query", .text)])) (partsOf [piecemeal, progress])),
    ("workspaceSymbol/resolve", .record "WorkspaceSymbol" (.ofList (
      required [("name", .text), ("kind", signed)] ++
      voluntary [("tags", .list signed), ("containerName", .text)] ++
      required [("location", .either "OneOf" location
        (recordOf "WorkspaceLocation" [("uri", .uri)]))] ++
      voluntary [("data", .anything)]))),
    ("workspace/willCreateFiles", files "CreateFilesParams" "FileCreate" ["uri"]),
    ("workspace/willRenameFiles", files "RenameFilesParams" "FileRename" ["oldUri", "newUri"]),
    ("workspace/willDeleteFiles", files "DeleteFilesParams" "FileDelete" ["uri"])]

/-- The methods of the protocol that are to be answered, but that this server does not serve, with
the shapes of their parameters. -/
def unserved : List (String × Shape) :=
  unservedAtPlace ++ unservedAboutDocument ++ unservedResolving ++ unservedAboutWorkspace

/-- The shape of the parameters of a method that is not served. -/
def unserved? (method : String) : Option Shape := (unserved.find? (·.1 == method)).map (·.2)

end Parameters

end ToolRelay
