import ODataQuery.Filter.Render

/-!
# Companion URLs

Fixed requests about entities and their records. Names and ids are inserted as they are.
-/

namespace ODataQuery.Companion

/-- The path of the records that one record is connected with by a many-to-many relationship. -/
def intersectPath (collection id relationship : String) : String :=
  collection ++ "(" ++ id ++ ")/" ++ relationship

/-- The filter of a definition by its logical name. -/
def nameFilter (logicalName : String) : String :=
  "$filter=LogicalName eq '" ++ logicalName ++ "'"

/-- The URL of the definition of an entity. -/
def metadataUrl (base entity : String) : String :=
  base ++ "/EntityDefinitions?$count=true&" ++ nameFilter entity

/-- The URL of the options of a picklist; picklists for several options are of another type. -/
def picklistUrl (base metadataId attributeName : String) (multiSelect : Bool) : String :=
  let kind := if multiSelect then "MultiSelectPicklistAttributeMetadata"
    else "PicklistAttributeMetadata"
  base ++ "/EntityDefinitions(" ++ metadataId ++ ")/Attributes/" ++ vendorNamespace ++ "." ++ kind
    ++ "?" ++ nameFilter attributeName ++ "&$count=true&$expand=OptionSet"

end ODataQuery.Companion
