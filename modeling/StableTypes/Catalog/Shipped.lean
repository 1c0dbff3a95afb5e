import StableTypes.Catalog.Basic

/-!
# The shipped catalog

The well-known types of Kotlin, its standard library and the Compose toolkit.
-/

namespace StableTypes.Catalog

/-- The catalog used where no other one is given. -/
def shipped : Catalog where
  primitiveTypes := [
    "kotlin.Boolean",
    "kotlin.Byte",
    "kotlin.Short",
    "kotlin.Int",
    "kotlin.Long",
    "kotlin.Float",
    "kotlin.Double",
    "kotlin.Char",
    "kotlin.UByte",
    "kotlin.UShort",
    "kotlin.UInt",
    "kotlin.ULong"]
  stringTypes := ["kotlin.String"]
  unitTypes := ["kotlin.Unit", "kotlin.Nothing"]
  rootTypes := ["kotlin.Any"]
  functionTypePrefixes := [
    "kotlin.Function",
    "kotlin.jvm.functions.Function",
    "kotlin.coroutines.SuspendFunction"]
  suspendFunctionTypePrefixes := ["kotlin.coroutines.SuspendFunction"]
  callbackAnnotations := ["androidx.compose.runtime.Composable"]
  stableAnnotations := [
    "androidx.compose.runtime.Stable",
    "androidx.compose.runtime.Immutable",
    "com.google.errorprone.annotations.Immutable",
    "com.skydoves.compose.stability.runtime.StableForAnalysis"]
  markerAnnotations := ["kotlinx.parcelize.Parcelize"]
  mutableCollectionTypes := [
    "kotlin.collections.MutableList",
    "kotlin.collections.MutableSet",
    "kotlin.collections.MutableMap",
    "kotlin.collections.MutableCollection",
    "kotlin.collections.MutableIterable",
    "kotlin.collections.ArrayList",
    "kotlin.collections.HashSet",
    "kotlin.collections.HashMap",
    "kotlin.collections.LinkedHashSet",
    "kotlin.collections.LinkedHashMap"]
  standardCollectionTypes := [
    "kotlin.collections.List",
    "kotlin.collections.Set",
    "kotlin.collections.Map",
    "kotlin.collections.Collection",
    "kotlin.collections.Iterable",
    "kotlin.sequences.Sequence"]
  immutableCollectionPackages := ["kotlinx.collections.immutable."]
  immutableCollectionSimpleNames := [
    "ImmutableList",
    "ImmutableSet",
    "ImmutableMap",
    "ImmutableCollection",
    "PersistentList",
    "PersistentSet",
    "PersistentMap",
    "PersistentCollection"]
  knownStableTypes := [
    "androidx.compose.ui.Modifier",
    "androidx.compose.ui.graphics.Color",
    "androidx.compose.ui.unit.Dp",
    "androidx.compose.ui.unit.TextUnit",
    "androidx.compose.ui.unit.IntOffset",
    "androidx.compose.ui.unit.IntSize",
    "androidx.compose.ui.geometry.Offset",
    "androidx.compose.ui.geometry.Size",
    "androidx.compose.ui.unit.DpOffset",
    "androidx.compose.ui.unit.DpSize",
    "androidx.compose.ui.unit.Constraints",
    "androidx.compose.foundation.shape.RoundedCornerShape",
    "androidx.compose.foundation.shape.CircleShape",
    "androidx.compose.foundation.shape.CutCornerShape",
    "androidx.compose.foundation.shape.CornerBasedShape",
    "androidx.compose.foundation.shape.AbsoluteRoundedCornerShape",
    "androidx.compose.foundation.shape.AbsoluteCutCornerShape",
    "androidx.compose.ui.graphics.RectangleShape",
    "androidx.compose.ui.text.style.TextAlign",
    "androidx.compose.ui.text.style.TextDirection",
    "androidx.compose.ui.text.style.TextDecoration",
    "androidx.compose.ui.text.style.TextOverflow",
    "androidx.compose.ui.text.style.TextIndent",
    "androidx.compose.ui.text.style.TextGeometricTransform",
    "androidx.compose.ui.text.style.BaselineShift",
    "androidx.compose.ui.text.style.LineHeightStyle",
    "androidx.compose.ui.text.font.FontStyle",
    "androidx.compose.ui.text.font.FontWeight",
    "androidx.compose.ui.text.font.FontSynthesis",
    "androidx.compose.ui.text.intl.LocaleList",
    "androidx.compose.ui.unit.LayoutDirection",
    "androidx.compose.ui.graphics.BlendMode",
    "androidx.compose.ui.graphics.FilterQuality",
    "androidx.compose.ui.graphics.StrokeCap",
    "androidx.compose.ui.graphics.StrokeJoin",
    "androidx.compose.ui.graphics.TileMode",
    "androidx.compose.ui.graphics.PathFillType",
    "androidx.compose.ui.graphics.ClipOp",
    "androidx.compose.ui.graphics.ColorFilter",
    "androidx.compose.ui.graphics.Shadow",
    "androidx.compose.ui.graphics.drawscope.DrawStyle",
    "kotlin.Pair",
    "kotlin.Triple",
    "kotlin.Result",
    "kotlin.time.Duration",
    "kotlin.ranges.IntRange",
    "kotlin.ranges.LongRange",
    "kotlin.ranges.CharRange",
    "java.math.BigInteger",
    "java.math.BigDecimal",
    "java.util.Locale",
    "kotlinx.collections.immutable.ImmutableList",
    "kotlinx.collections.immutable.ImmutableSet",
    "kotlinx.collections.immutable.ImmutableMap",
    "kotlinx.collections.immutable.PersistentList",
    "kotlinx.collections.immutable.PersistentSet",
    "kotlinx.collections.immutable.PersistentMap",
    "com.google.common.collect.ImmutableList",
    "com.google.common.collect.ImmutableEnumMap",
    "com.google.common.collect.ImmutableMap",
    "com.google.common.collect.ImmutableEnumSet",
    "com.google.common.collect.ImmutableSet",
    "dagger.Lazy",
    "com.google.protobuf.GeneratedMessage",
    "com.google.protobuf.GeneratedMessageLite",
    "com.google.protobuf.MessageLite"]
  knownStableSimpleNames := [
    "Modifier",
    "Color",
    "Dp",
    "TextUnit",
    "IntOffset",
    "IntSize",
    "Offset",
    "Size",
    "DpOffset",
    "DpSize",
    "Constraints",
    "TextAlign",
    "TextDirection",
    "TextDecoration",
    "TextOverflow",
    "TextIndent",
    "TextGeometricTransform",
    "BaselineShift",
    "LineHeightStyle",
    "FontStyle",
    "FontWeight",
    "FontSynthesis",
    "LocaleList",
    "BlendMode",
    "FilterQuality",
    "StrokeCap",
    "StrokeJoin",
    "TileMode",
    "PathFillType",
    "ClipOp",
    "ColorFilter",
    "Shadow",
    "DrawStyle",
    "LayoutDirection",
    "Pair",
    "Triple",
    "Result",
    "Duration",
    "IntRange",
    "LongRange",
    "CharRange",
    "BigInteger",
    "BigDecimal",
    "Locale",
    "ImmutableList",
    "ImmutableSet",
    "ImmutableMap",
    "PersistentList",
    "PersistentSet",
    "PersistentMap",
    "GeneratedMessage",
    "GeneratedMessageLite",
    "MessageLite"]
  nonRestartableAnnotations := ["androidx.compose.runtime.NonRestartableComposable"]
  readOnlyAnnotations := ["androidx.compose.runtime.ReadOnlyComposable"]

end StableTypes.Catalog
