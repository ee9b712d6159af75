import TagGrammar.Vocabulary.Domains

/-!
# Built-in component types

The component types every vocabulary starts from. A type lists only the properties it declares
itself.
-/

namespace TagGrammar.Builtin

/-- The built-in component types. -/
def types : List ComponentType := [
  ⟨"java.awt.Component", rootType, [
    ⟨"background", .color, none⟩, ⟨"foreground", .color, none⟩, ⟨"font", .font, none⟩,
    ⟨"enabled", .boolean, none⟩, ⟨"visible", .boolean, none⟩, ⟨"focusable", .boolean, none⟩,
    ⟨"ignoreRepaint", .boolean, none⟩, ⟨"name", .string, none⟩, ⟨"locale", .object, none⟩,
    ⟨"cursor", .object, none⟩, ⟨"componentOrientation", .object, none⟩,
    ⟨"dropTarget", .object, none⟩, ⟨"location", .object, none⟩, ⟨"bounds", .object, none⟩]⟩,
  ⟨"java.awt.Container", "java.awt.Component", [
    ⟨"focusCycleRoot", .boolean, none⟩, ⟨"focusTraversalPolicyProvider", .boolean, none⟩,
    ⟨"focusTraversalPolicy", .object, none⟩, ⟨"layout", .object, none⟩]⟩,
  ⟨"javax.swing.JComponent", "java.awt.Container", [
    ⟨"alignmentX", .float, none⟩, ⟨"alignmentY", .float, none⟩, ⟨"autoscrolls", .boolean, none⟩,
    ⟨"debugGraphicsOptions", .int, none⟩, ⟨"doubleBuffered", .boolean, none⟩,
    ⟨"inheritsPopupMenu", .boolean, none⟩, ⟨"opaque", .boolean, none⟩,
    ⟨"requestFocusEnabled", .boolean, none⟩, ⟨"toolTipText", .string, none⟩,
    ⟨"verifyInputWhenFocusTarget", .boolean, none⟩, ⟨"componentPopupMenu", .object, none⟩,
    ⟨"inputVerifier", .object, none⟩, ⟨"transferHandler", .object, none⟩,
    ⟨"minimumSize", .object, none⟩, ⟨"preferredSize", .object, none⟩,
    ⟨"maximumSize", .object, none⟩]⟩,
  ⟨"javax.swing.AbstractButton", "javax.swing.JComponent", [
    ⟨"action", .object, none⟩, ⟨"actionCommand", .string, none⟩,
    ⟨"borderPainted", .boolean, none⟩, ⟨"contentAreaFilled", .boolean, none⟩,
    ⟨"disabledIcon", .icon, none⟩, ⟨"disabledSelectedIcon", .icon, none⟩,
    ⟨"displayedMnemonicIndex", .int, none⟩, ⟨"focusPainted", .boolean, none⟩,
    ⟨"hideActionText", .boolean, none⟩, ⟨"horizontalAlignment", .int, none⟩,
    ⟨"horizontalTextPosition", .int, none⟩, ⟨"icon", .icon, none⟩, ⟨"iconTextGap", .int, none⟩,
    ⟨"margin", .object, none⟩, ⟨"mnemonic", .int, none⟩, ⟨"model", .object, none⟩,
    ⟨"multiClickThreshhold", .long, none⟩, ⟨"pressedIcon", .icon, none⟩,
    ⟨"rolloverEnabled", .boolean, none⟩, ⟨"rolloverIcon", .icon, none⟩,
    ⟨"rolloverSelectedIcon", .icon, none⟩, ⟨"selected", .boolean, none⟩,
    ⟨"selectedIcon", .icon, none⟩, ⟨"text", .string, none⟩, ⟨"verticalAlignment", .int, none⟩,
    ⟨"verticalTextPosition", .int, none⟩]⟩,
  ⟨"javax.swing.JButton", "javax.swing.AbstractButton", [
    ⟨"defaultCapable", .boolean, none⟩]⟩,
  ⟨"javax.swing.JToggleButton", "javax.swing.AbstractButton", []⟩,
  ⟨"javax.swing.JRadioButton", "javax.swing.JToggleButton", []⟩,
  ⟨"javax.swing.JCheckBox", "javax.swing.JToggleButton", [
    ⟨"borderPaintedFlat", .boolean, none⟩]⟩,
  ⟨"javax.swing.JMenuItem", "javax.swing.AbstractButton", [
    ⟨"accelerator", .keyStroke, none⟩, ⟨"armed", .boolean, none⟩]⟩,
  ⟨"javax.swing.JMenu", "javax.swing.JMenuItem", [
    ⟨"delay", .int, none⟩, ⟨"popupMenuVisible", .boolean, none⟩]⟩,
  ⟨"javax.swing.JCheckBoxMenuItem", "javax.swing.JMenuItem", [
    ⟨"state", .boolean, none⟩]⟩,
  ⟨"javax.swing.JRadioButtonMenuItem", "javax.swing.JMenuItem", []⟩,
  ⟨"javax.swing.JLabel", "javax.swing.JComponent", [
    ⟨"disabledIcon", .icon, none⟩, ⟨"displayedMnemonic", .int, none⟩,
    ⟨"displayedMnemonicIndex", .int, none⟩, ⟨"horizontalAlignment", .int, none⟩,
    ⟨"horizontalTextPosition", .int, none⟩, ⟨"icon", .icon, none⟩, ⟨"iconTextGap", .int, none⟩,
    ⟨"labelFor", .object, none⟩, ⟨"text", .string, none⟩, ⟨"verticalAlignment", .int, none⟩,
    ⟨"verticalTextPosition", .int, none⟩]⟩,
  ⟨"javax.swing.text.JTextComponent", "javax.swing.JComponent", [
    ⟨"caretColor", .color, none⟩, ⟨"caretPosition", .int, none⟩,
    ⟨"disabledTextColor", .color, none⟩, ⟨"document", .object, none⟩,
    ⟨"dragEnabled", .boolean, none⟩, ⟨"editable", .boolean, none⟩,
    ⟨"focusAccelerator", .char, none⟩, ⟨"highlighter", .object, none⟩, ⟨"margin", .object, none⟩,
    ⟨"selectedTextColor", .color, none⟩, ⟨"selectionColor", .color, none⟩,
    ⟨"selectionEnd", .int, none⟩, ⟨"selectionStart", .int, none⟩, ⟨"text", .string, none⟩]⟩,
  ⟨"javax.swing.JTextField", "javax.swing.text.JTextComponent", [
    ⟨"actionCommand", .string, none⟩, ⟨"columns", .int, none⟩,
    ⟨"horizontalAlignment", .int, none⟩, ⟨"scrollOffset", .int, none⟩]⟩,
  ⟨"javax.swing.JPasswordField", "javax.swing.JTextField", [
    ⟨"echoChar", .char, none⟩]⟩,
  ⟨"javax.swing.JFormattedTextField", "javax.swing.JTextField", [
    ⟨"focusLostBehavior", .int, none⟩, ⟨"formatterFactory", .object, none⟩,
    ⟨"value", .object, none⟩]⟩,
  ⟨"javax.swing.JTextArea", "javax.swing.text.JTextComponent", [
    ⟨"columns", .int, none⟩, ⟨"lineWrap", .boolean, none⟩, ⟨"rows", .int, none⟩,
    ⟨"tabSize", .int, none⟩, ⟨"wrapStyleWord", .boolean, none⟩]⟩,
  ⟨"javax.swing.JEditorPane", "javax.swing.text.JTextComponent", [
    ⟨"contentType", .string, none⟩, ⟨"editorKit", .object, none⟩, ⟨"page", .object, none⟩]⟩,
  ⟨"javax.swing.JComboBox", "javax.swing.JComponent", [
    ⟨"editable", .boolean, none⟩, ⟨"lightWeightPopupEnabled", .boolean, none⟩,
    ⟨"maximumRowCount", .int, none⟩, ⟨"model", .object, none⟩, ⟨"popupVisible", .boolean, none⟩,
    ⟨"prototypeDisplayValue", .object, none⟩, ⟨"renderer", .object, none⟩,
    ⟨"selectedIndex", .int, none⟩]⟩,
  ⟨"javax.swing.JSpinner", "javax.swing.JComponent", [
    ⟨"editor", .object, none⟩, ⟨"model", .object, none⟩, ⟨"value", .object, none⟩]⟩,
  ⟨"javax.swing.JSlider", "javax.swing.JComponent", [
    ⟨"extent", .int, none⟩, ⟨"inverted", .boolean, none⟩, ⟨"labelTable", .object, none⟩,
    ⟨"majorTickSpacing", .int, none⟩, ⟨"maximum", .int, none⟩, ⟨"minimum", .int, none⟩,
    ⟨"minorTickSpacing", .int, none⟩, ⟨"orientation", .int, none⟩,
    ⟨"paintLabels", .boolean, none⟩, ⟨"paintTicks", .boolean, none⟩,
    ⟨"paintTrack", .boolean, none⟩, ⟨"snapToTicks", .boolean, none⟩, ⟨"value", .int, none⟩,
    ⟨"valueIsAdjusting", .boolean, none⟩]⟩,
  ⟨"javax.swing.JProgressBar", "javax.swing.JComponent", [
    ⟨"borderPainted", .boolean, none⟩, ⟨"indeterminate", .boolean, none⟩, ⟨"maximum", .int, none⟩,
    ⟨"minimum", .int, none⟩, ⟨"orientation", .int, none⟩, ⟨"string", .string, none⟩,
    ⟨"stringPainted", .boolean, none⟩, ⟨"value", .int, none⟩]⟩,
  ⟨"javax.swing.JSeparator", "javax.swing.JComponent", [
    ⟨"orientation", .int, none⟩]⟩,
  ⟨"javax.swing.JScrollPane", "javax.swing.JComponent", [
    ⟨"columnHeaderView", .object, none⟩, ⟨"horizontalScrollBarPolicy", .int, none⟩,
    ⟨"rowHeaderView", .object, none⟩, ⟨"verticalScrollBarPolicy", .int, none⟩,
    ⟨"viewportView", .object, none⟩, ⟨"wheelScrollingEnabled", .boolean, none⟩]⟩,
  ⟨"javax.swing.JSplitPane", "javax.swing.JComponent", [
    ⟨"continuousLayout", .boolean, none⟩, ⟨"dividerLocation", .int, none⟩,
    ⟨"dividerSize", .int, none⟩, ⟨"leftComponent", .object, none⟩,
    ⟨"oneTouchExpandable", .boolean, none⟩, ⟨"orientation", .int, none⟩,
    ⟨"resizeWeight", .double, none⟩, ⟨"rightComponent", .object, none⟩]⟩,
  ⟨"javax.swing.JTabbedPane", "javax.swing.JComponent", [
    ⟨"model", .object, none⟩, ⟨"selectedIndex", .int, none⟩, ⟨"tabLayoutPolicy", .int, none⟩,
    ⟨"tabPlacement", .int, none⟩]⟩,
  ⟨"javax.swing.JToolBar", "javax.swing.JComponent", [
    ⟨"borderPainted", .boolean, none⟩, ⟨"floatable", .boolean, none⟩, ⟨"margin", .object, none⟩,
    ⟨"orientation", .int, none⟩, ⟨"rollover", .boolean, none⟩]⟩,
  ⟨"javax.swing.JMenuBar", "javax.swing.JComponent", [
    ⟨"borderPainted", .boolean, none⟩, ⟨"margin", .object, none⟩]⟩,
  ⟨"javax.swing.JList", "javax.swing.JComponent", [
    ⟨"dragEnabled", .boolean, none⟩, ⟨"fixedCellHeight", .int, none⟩,
    ⟨"fixedCellWidth", .int, none⟩, ⟨"layoutOrientation", .int, none⟩,
    ⟨"listData", .object, none⟩, ⟨"model", .object, none⟩, ⟨"selectedIndex", .int, none⟩,
    ⟨"selectionBackground", .color, none⟩, ⟨"selectionForeground", .color, none⟩,
    ⟨"selectionMode", .int, none⟩, ⟨"visibleRowCount", .int, none⟩]⟩,
  ⟨"javax.swing.JTable", "javax.swing.JComponent", [
    ⟨"autoCreateColumnsFromModel", .boolean, none⟩, ⟨"autoCreateRowSorter", .boolean, none⟩,
    ⟨"autoResizeMode", .int, none⟩, ⟨"cellSelectionEnabled", .boolean, none⟩,
    ⟨"columnSelectionAllowed", .boolean, none⟩, ⟨"dragEnabled", .boolean, none⟩,
    ⟨"fillsViewportHeight", .boolean, none⟩, ⟨"gridColor", .color, none⟩,
    ⟨"model", .object, none⟩, ⟨"rowHeight", .int, none⟩, ⟨"rowMargin", .int, none⟩,
    ⟨"rowSelectionAllowed", .boolean, none⟩, ⟨"selectionBackground", .color, none⟩,
    ⟨"selectionForeground", .color, none⟩, ⟨"showGrid", .boolean, none⟩,
    ⟨"showHorizontalLines", .boolean, none⟩, ⟨"showVerticalLines", .boolean, none⟩]⟩,
  ⟨"javax.swing.JTree", "javax.swing.JComponent", [
    ⟨"dragEnabled", .boolean, none⟩, ⟨"editable", .boolean, none⟩,
    ⟨"expandsSelectedPaths", .boolean, none⟩, ⟨"largeModel", .boolean, none⟩,
    ⟨"model", .object, none⟩, ⟨"rootVisible", .boolean, none⟩, ⟨"rowHeight", .int, none⟩,
    ⟨"scrollsOnExpand", .boolean, none⟩, ⟨"showsRootHandles", .boolean, none⟩,
    ⟨"toggleClickCount", .int, none⟩, ⟨"visibleRowCount", .int, none⟩]⟩,
  ⟨"javax.swing.JColorChooser", "javax.swing.JComponent", [
    ⟨"color", .color, none⟩, ⟨"dragEnabled", .boolean, none⟩, ⟨"previewPanel", .object, none⟩]⟩,
  ⟨"javax.swing.JPanel", "javax.swing.JComponent", []⟩,
  ⟨"org.httprpc.sierra.LayoutPanel", "javax.swing.JPanel", []⟩,
  ⟨"org.httprpc.sierra.BoxPanel", "org.httprpc.sierra.LayoutPanel", [
    ⟨"horizontalAlignment", .enum, some horizontalAlignment.key⟩,
    ⟨"verticalAlignment", .enum, some verticalAlignment.key⟩, ⟨"spacing", .int, none⟩]⟩,
  ⟨"org.httprpc.sierra.RowPanel", "org.httprpc.sierra.BoxPanel", [
    ⟨"alignToBaseline", .boolean, none⟩]⟩,
  ⟨"org.httprpc.sierra.ColumnPanel", "org.httprpc.sierra.BoxPanel", [
    ⟨"alignToGrid", .boolean, none⟩]⟩,
  ⟨"org.httprpc.sierra.StackPanel", "org.httprpc.sierra.LayoutPanel", []⟩,
  ⟨"org.httprpc.sierra.Spacer", "javax.swing.JComponent", []⟩,
  ⟨"org.httprpc.sierra.TextPane", "javax.swing.JComponent", [
    ⟨"text", .string, none⟩, ⟨"horizontalAlignment", .enum, some horizontalAlignment.key⟩,
    ⟨"verticalAlignment", .enum, some verticalAlignment.key⟩, ⟨"wrapText", .boolean, none⟩]⟩,
  ⟨"org.httprpc.sierra.ImagePane", "javax.swing.JComponent", [
    ⟨"image", .image, none⟩, ⟨"horizontalAlignment", .enum, some horizontalAlignment.key⟩,
    ⟨"verticalAlignment", .enum, some verticalAlignment.key⟩, ⟨"scaleToFit", .boolean, none⟩]⟩,
  ⟨"org.httprpc.sierra.MenuButton", "javax.swing.JButton", [
    ⟨"popupMenu", .object, none⟩]⟩,
  ⟨"org.httprpc.sierra.Picker", "javax.swing.JTextField", [
    ⟨"popupHorizontalAlignment", .enum, some horizontalAlignment.key⟩,
    ⟨"popupVerticalAlignment", .enum, some verticalAlignment.key⟩]⟩,
  ⟨"org.httprpc.sierra.TemporalPicker", "org.httprpc.sierra.Picker", []⟩,
  ⟨"org.httprpc.sierra.DatePicker", "org.httprpc.sierra.TemporalPicker", [
    ⟨"date", .object, none⟩, ⟨"minimumDate", .object, none⟩, ⟨"maximumDate", .object, none⟩]⟩,
  ⟨"org.httprpc.sierra.TimePicker", "org.httprpc.sierra.TemporalPicker", [
    ⟨"time", .object, none⟩, ⟨"minimumTime", .object, none⟩, ⟨"maximumTime", .object, none⟩]⟩,
  ⟨"org.httprpc.sierra.SuggestionPicker", "org.httprpc.sierra.Picker", [
    ⟨"suggestions", .object, none⟩, ⟨"maximumRowCount", .int, none⟩]⟩,
  ⟨"org.httprpc.sierra.ActivityIndicator", "javax.swing.JComponent", []⟩,
  ⟨"org.httprpc.sierra.NumberField", "javax.swing.JTextField", [
    ⟨"value", .number, none⟩, ⟨"format", .object, none⟩]⟩,
  ⟨"org.httprpc.sierra.ValidatedTextField", "javax.swing.JTextField", [
    ⟨"value", .string, none⟩, ⟨"pattern", .string, none⟩]⟩,
  ⟨"org.httprpc.sierra.ChartPane", "javax.swing.JComponent", [
    ⟨"chart", .object, none⟩]⟩]

/-- The built-in tags, with the types they stand for. -/
def bindings : List (String × String) := [
  ("label", "javax.swing.JLabel"), ("button", "javax.swing.JButton"),
  ("toggle-button", "javax.swing.JToggleButton"), ("radio-button", "javax.swing.JRadioButton"),
  ("check-box", "javax.swing.JCheckBox"), ("text-field", "javax.swing.JTextField"),
  ("password-field", "javax.swing.JPasswordField"),
  ("formatted-text-field", "javax.swing.JFormattedTextField"),
  ("combo-box", "javax.swing.JComboBox"), ("spinner", "javax.swing.JSpinner"),
  ("slider", "javax.swing.JSlider"), ("progress-bar", "javax.swing.JProgressBar"),
  ("separator", "javax.swing.JSeparator"), ("scroll-pane", "javax.swing.JScrollPane"),
  ("split-pane", "javax.swing.JSplitPane"), ("tabbed-pane", "javax.swing.JTabbedPane"),
  ("tool-bar", "javax.swing.JToolBar"), ("menu-bar", "javax.swing.JMenuBar"),
  ("menu", "javax.swing.JMenu"), ("menu-item", "javax.swing.JMenuItem"),
  ("check-box-menu-item", "javax.swing.JCheckBoxMenuItem"),
  ("radio-button-menu-item", "javax.swing.JRadioButtonMenuItem"), ("list", "javax.swing.JList"),
  ("table", "javax.swing.JTable"), ("tree", "javax.swing.JTree"),
  ("text-area", "javax.swing.JTextArea"), ("editor-pane", "javax.swing.JEditorPane"),
  ("color-chooser", "javax.swing.JColorChooser"), ("row-panel", "org.httprpc.sierra.RowPanel"),
  ("column-panel", "org.httprpc.sierra.ColumnPanel"),
  ("stack-panel", "org.httprpc.sierra.StackPanel"), ("spacer", "org.httprpc.sierra.Spacer"),
  ("text-pane", "org.httprpc.sierra.TextPane"), ("image-pane", "org.httprpc.sierra.ImagePane"),
  ("menu-button", "org.httprpc.sierra.MenuButton"),
  ("date-picker", "org.httprpc.sierra.DatePicker"),
  ("time-picker", "org.httprpc.sierra.TimePicker"),
  ("suggestion-picker", "org.httprpc.sierra.SuggestionPicker"),
  ("activity-indicator", "org.httprpc.sierra.ActivityIndicator"),
  ("number-field", "org.httprpc.sierra.NumberField"),
  ("validated-text-field", "org.httprpc.sierra.ValidatedTextField"),
  ("chart-pane", "org.httprpc.sierra.ChartPane")]

end TagGrammar.Builtin
